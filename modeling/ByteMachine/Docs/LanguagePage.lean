import ByteMachine.Docs.Csv
/- The language table page: an HTML document that shows the instruction
   set, one row per instruction, and sorts its rows by a column when the
   column's heading is clicked.

   The page is a fixed head (title and style sheet), the table, and a fixed
   tail (the sorting script). The first record of the table's source gives
   the headings, each rotated and numbered for the script; every later
   record gives one row of cells. Fields are written into the page as they
   are, without escaping. The pieces of the page are joined by line feeds,
   and the page does not end with one. -/
namespace ByteMachine.Docs

/-- The lines of the page before the table. -/
def pageHead : List String := [
  "<!DOCTYPE html>",
  "<html>",
  "<head>",
  "<title>Eight Bit Computer Language Table</title>",
  "<style>",
  "  table \x7b",
  "    border-collapse: collapse;",
  "    font-family: Courier New;",
  "  \x7d",
  "",
  "  table, th, td \x7b",
  "    border: 1px solid #ddd;",
  "  \x7d",
  "",
  "  th \x7b",
  "    cursor: pointer;",
  "    vertical-align: bottom;",
  "    text-align: center;",
  "  \x7d",
  "  ",
  "  th span ",
  "  \x7b",
  "    -ms-writing-mode: tb-rl;",
  "    -webkit-writing-mode: vertical-rl;",
  "    writing-mode: vertical-rl;",
  "    transform: rotate(180deg);",
  "    white-space: nowrap;",
  "  \x7d",
  "  ",
  "  th, td \x7b",
  "    text-align: left;",
  "    padding: 2px;",
  "    white-space: nowrap;",
  "  \x7d",
  "  ",
  "  tr:nth-child(even) \x7b",
  "    background-color: #f2f2f2",
  "  \x7d",
  "</style>",
  ""
]

/-- The lines of the page after the table. -/
def pageTail : List String := [
  "",
  "<!-- Taken from https://www.w3schools.com/howto/howto_js_sort_table.asp -->",
  "",
  "<script>",
  "function sortTable(n) \x7b",
  "  var table, rows, switching, i, x, y, shouldSwitch, dir, switchcount = 0;",
  "  table = document.getElementById(\"language_table\");",
  "  switching = true;",
  "  //Set the sorting direction to ascending:",
  "  dir = \"asc\"; ",
  "  /*Make a loop that will continue until",
  "  no switching has been done:*/",
  "  while (switching) \x7b",
  "    //start by saying: no switching is done:",
  "    switching = false;",
  "    rows = table.rows;",
  "    /*Loop through all table rows (except the",
  "    first, which contains table headers):*/",
  "    for (i = 1; i < (rows.length - 1); i++) \x7b",
  "      //start by saying there should be no switching:",
  "      shouldSwitch = false;",
  "      /*Get the two elements you want to compare,",
  "      one from current row and one from the next:*/",
  "      x = rows[i].getElementsByTagName(\"TD\")[n];",
  "      y = rows[i + 1].getElementsByTagName(\"TD\")[n];",
  "      /*check if the two rows should switch place,",
  "      based on the direction, asc or desc:*/",
  "      if (dir == \"asc\") \x7b",
  "        if (x.innerHTML.toLowerCase() > y.innerHTML.toLowerCase()) \x7b",
  "          //if so, mark as a switch and break the loop:",
  "          shouldSwitch= true;",
  "          break;",
  "        \x7d",
  "      \x7d else if (dir == \"desc\") \x7b",
  "        if (x.innerHTML.toLowerCase() < y.innerHTML.toLowerCase()) \x7b",
  "          //if so, mark as a switch and break the loop:",
  "          shouldSwitch = true;",
  "          break;",
  "        \x7d",
  "      \x7d",
  "    \x7d",
  "    if (shouldSwitch) \x7b",
  "      /*If a switch has been marked, make the switch",
  "      and mark that a switch has been done:*/",
  "      rows[i].parentNode.insertBefore(rows[i + 1], rows[i]);",
  "      switching = true;",
  "      //Each time a switch is done, increase this count by 1:",
  "      switchcount ++;      ",
  "    \x7d else \x7b",
  "      /*If no switching has been done AND the direction is \"asc\",",
  "      set the direction to \"desc\" and run the while loop again.*/",
  "      if (switchcount == 0 && dir == \"asc\") \x7b",
  "        dir = \"desc\";",
  "        switching = true;",
  "      \x7d",
  "    \x7d",
  "  \x7d",
  "\x7d",
  "</script>",
  "</body>",
  "</html>"
]

/-- The line of the heading at column `i`. -/
def heading (i : Nat) (text : String) : String :=
  "    <th onclick=\"sortTable(" ++ toString i ++ ")\"><span>" ++ text ++ "</span></th>"

/-- The lines of the heading row. -/
def headingRow (fields : List String) : List String :=
  ["  <tr>"] ++ (List.range fields.length).zipWith heading fields ++ ["  </tr>"]

/-- The lines of a row of cells. -/
def cellRow (fields : List String) : List String :=
  ["  <tr>", "    " ++ String.join (fields.map fun f => "<td>" ++ f ++ "</td>"), "  </tr>"]

/-- The lines of the table: the heading row from the first record, and a row
of cells for each later one. -/
def tableLines : List (List String) → List String
  | [] => []
  | first :: rest => headingRow first ++ rest.flatMap cellRow

/-- The page for the table given as comma-separated values. -/
def languagePage (csv : String) : String :=
  "\n".intercalate ([String.intercalate "\n" pageHead, "<table id=\"language_table\">"] ++
    tableLines (Csv.records csv) ++ ["</table>", String.intercalate "\n" pageTail])

end ByteMachine.Docs
