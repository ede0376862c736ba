import ByteMachine.Package.Modules
import ByteMachine.Fault
import ByteMachine.Text.Blank
/- Importing a module by its dotted name, and looking for a command class in
   the packages that provide commands.

   A dotted name is read from its end. The part after the last dot is
   looked for among the members of the module that the rest names, which
   must be a package; a member of a vendored package is the module of that
   name in the package it comes from. When the rest is empty, as for a name
   without a dot or a name that is a dot and one part, the last part is
   looked for among the top-level modules. A name registered for a module
   elsewhere reaches that module directly. A name that starts with a dot is
   read the same way, but as soon as the module of its first two parts is
   found, loading it fails: the top-level package that such a name names
   is the empty name. Every module found on the way is loaded, outermost
   first.

   A command class is looked for in each package in turn, as the module of
   the command's name in that package. A package whose module is not found
   is passed over. The first module found ends the search: it may hold no
   class of that name, hold something that is not a class, or hold a class
   that is no command. The modules loaded during the search print their
   notices, each notice once, when the verbosity is high enough. -/
namespace ByteMachine.Package

/-- The members of the package named `name`, or `none` if no package has that name. -/
def packageMembers? (name : String) : Option (List String) :=
  (allPackages.find? (·.name = name)).map (·.members)

/-- Whether a top-level module has the name `name`. -/
def isTopLevel (name : String) : Bool :=
  plainModules.contains name || allPackages.any (·.name = name)

/-- The module of the member `last` of the package module `parent`, if it has one. -/
def plainMember (parent last : String) : Option String :=
  match packageMembers? parent with
  | some members => if members.contains last then some (parent ++ "." ++ last) else none
  | none => none

/-- The module of the member `last` of the module `parent`, if it has one; the
members of a vendored package are those of the package they come from. -/
def memberModule (parent last : String) : Option String :=
  match vendoredPackages.find? (·.1 = parent) with
  | some (_, source, names) => if names.contains last then plainMember source last else none
  | none => plainMember parent last

/-- What importing a dotted name comes to: the modules loaded on the way,
outermost first, and the module of the name itself if it was found. -/
structure Loading where
  loaded : List String := []
  found : Option String := none
  deriving Repr, DecidableEq

/-- The top-level module `last` loaded, if there is one. -/
def loadTop (last : String) : Loading :=
  if isTopLevel last then { loaded := [last], found := some last } else {}

/-- Import the module whose dotted name has the parts `parts`, last part
first, or raise the fault the import raises. The name of a dot and one part
is that of a top-level module whose top-level package is the empty name, so
finding it fails. -/
def load : List String → Except Fault Loading
  | [] => .ok {}
  | [last] => .ok (loadTop last)
  | [last, ""] => if isTopLevel last then .error .emptyModuleName else .ok {}
  | last :: rest =>
    let name := ".".intercalate (rest.reverse ++ [last])
    if aliasModules.contains name then .ok { found := some name }
    else
      match load rest with
      | .error f => .error f
      | .ok { loaded, found := some parent } =>
        match memberModule parent last with
        | some m => .ok { loaded := loaded ++ [m], found := some m }
        | none => .ok { loaded, found := none }
      | .ok l => .ok { l with found := none }

/-- Import the module of the dotted name `name`. -/
def importModule (name : String) : Except Fault Loading :=
  load (name.splitOn ".").reverse

/-- The packages to look for commands in: those named in `given`, separated
by commas, each without the blanks around it, and the script's own command
package first unless it is named among them. -/
def commandPackages (given : String) : List String :=
  let named := ((given.splitOn ",").filter (· ≠ "")).map Text.trim
  if named.contains "distutils.command" then named else "distutils.command" :: named

/-- The module whose notice loading `m` prints, if any. -/
def noticeSource (m : String) : Option String :=
  if notices.any (·.source = m) then some m else noticeImports.lookup m

/-- The text printed when the modules `loaded` are loaded in order at
verbosity `v`: each notice once, where the first module that brings it is loaded. -/
def printedNotices (v : Nat) (loaded : List String) : String :=
  let sources := (loaded.filterMap noticeSource).eraseDups
  String.join (sources.filterMap fun src =>
    (notices.find? fun n => n.source = src ∧ n.verbosity ≤ v).map (·.text ++ "\n"))

/-- How a search for a command class ends when it raises no fault. -/
inductive Search where
  /-- No package has a module of the command's name. -/
  | notFound
  /-- The module `module` was found, and holds no class of the command's name. -/
  | noClass (module : String)
  deriving Repr, DecidableEq

/-- Look for the command class `name` in the packages `pkgs`, in turn, after
the modules `loaded` have been loaded: the modules loaded by the end of the
search, and how it ends. -/
def searchFrom (name : String) (loaded : List String) :
    List String → Except Fault (List String × Search)
  | [] => .ok (loaded, .notFound)
  | pkg :: rest =>
    let module := pkg ++ "." ++ name
    match importModule module with
    | .error f => .error f
    | .ok l =>
      let loaded := loaded ++ l.loaded
      match l.found with
      | none => searchFrom name loaded rest
      | some m =>
        match ownNames.lookup m with
        | none => .ok (loaded, .noClass module)
        | some .notClass => .error .notAClass
        | some (.otherClass shown) => .error (.notACommand shown)

/-- Look for the command class `name` in the packages `pkgs` at verbosity `v`:
the text printed on the way, and how the search ends. -/
def searchCommand (v : Nat) (name : String) (pkgs : List String) :
    Except Fault (String × Search) := do
  let (loaded, search) ← searchFrom name [] pkgs
  pure (printedNotices v loaded, search)

end ByteMachine.Package
