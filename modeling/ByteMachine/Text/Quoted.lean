import ByteMachine.Text.Printable
/- Quoted text: a string written between quotes so that it reads back
   unchanged. The quote is the apostrophe, unless the text holds an
   apostrophe and no double quote, in which case it is the double quote.
   Inside, the chosen quote and the backslash get a backslash before them;
   tab, line feed and carriage return are written `\t`, `\n`, `\r`; other
   characters that are not printable are written as hexadecimal escapes of
   two, four or eight lower-case digits (`\x`, `\u`, `\U`), the fewest that
   hold the code point; everything else stands for itself. -/
namespace ByteMachine.Text

/-- The lower-case hexadecimal digits of `n`, with zeros in front up to `width`. -/
def hexDigits (n width : Nat) : List Char :=
  let ds := Nat.toDigits 16 n
  List.replicate (width - ds.length) '0' ++ ds

/-- How `c` is written inside text quoted with `q`. -/
def escapeChar (q c : Char) : List Char :=
  if c = q ∨ c = '\\' then ['\\', c]
  else if c = '\t' then ['\\', 't']
  else if c = '\n' then ['\\', 'n']
  else if c = '\r' then ['\\', 'r']
  else if isPrintable c then [c]
  else if c.toNat ≤ 0xFF then '\\' :: 'x' :: hexDigits c.toNat 2
  else if c.toNat ≤ 0xFFFF then '\\' :: 'u' :: hexDigits c.toNat 4
  else '\\' :: 'U' :: hexDigits c.toNat 8

/-- The quote character used for `s`. -/
def quoteFor (s : String) : Char :=
  if s.toList.contains '\'' && !s.toList.contains '"' then '"' else '\''

/-- The text `s` between quotes, escaped so that it reads back unchanged. -/
def quote (s : String) : String :=
  let q := quoteFor s
  String.ofList (q :: s.toList.flatMap (escapeChar q) ++ [q])

example : quote "@end" = "'@end'" ∧ quote "it's" = "\"it's\"" := by decide

end ByteMachine.Text
