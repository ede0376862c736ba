import Std.Data.HashMap
import Std.Data.HashSet
import ByteMachine.Instruction
/- The microcode memory. Each template stands for the addresses its
   pattern collapses to, all holding its data. The full memory has an entry
   for every 15-bit address, in increasing order: the data of the template
   that covers the address, or the control word with every line low where
   none does. No two templates of the language cover a common address; the
   build checks this.

   A memory is built from 8-bit chips: slice `i` of a memory holds bits
   `8i + 7` down to `8i` of every entry, positions counted from the right. -/
namespace ByteMachine.Microcode

/-- One word of microcode memory at an address. -/
structure RomEntry where
  address : String
  data : String
  deriving Repr, DecidableEq

/-- The entries that the templates stand for, template by template. -/
def collapseTemplates (ts : List Template) : List RomEntry :=
  ts.flatMap fun t => t.range.collapse.map fun a => ⟨a, t.data⟩

/-- The entries that the templates stand for, or the fault that one of them
has too many open positions to expand one nested call at a time. -/
def expandTemplates (ts : List Template) : Except Fault (List RomEntry) :=
  if ts.any fun t => Bitdef.expansionLimit ≤ t.range.cells.count .wild then .error .recursionLimit
  else .ok (collapseTemplates ts)

/-- An entry for each address: the data of the last entry for it, else `default`. -/
def populate (entries : List RomEntry) (addresses : List String) (default : String) :
    List RomEntry :=
  let filled : Std.HashMap String String :=
    entries.foldl (fun m e => m.insert e.address e.data) {}
  addresses.map fun a => ⟨a, filled.getD a default⟩

/-- Whether two entries share an address. -/
def hasDuplicates (entries : List RomEntry) : Bool :=
  (entries.foldl (fun (st : Std.HashSet String × Bool) e =>
    if st.2 then st
    else if st.1.contains e.address then (st.1, true)
    else (st.1.insert e.address, false)) ({}, false)).2

/-- The full microcode memory of the language. -/
def fullRom : Except Fault (Array RomEntry) := do
  let entries := collapseTemplates (← languageTemplates)
  if hasDuplicates entries then throw .duplicateAddresses
  let all := populate entries Machine.emptyAddress.collapse Machine.controlsDefault
  pure (all.mergeSort fun a b => decide (a.address ≤ b.address)).toArray

/-- The entries from position `start` on, at most `count` of them. -/
def romRange (rom : Array RomEntry) (start count : Int) : List RomEntry :=
  let a := Text.clampIndex rom.size start
  let b := Text.clampIndex rom.size (start + count)
  (rom.extract a b).toList

/-- Whether `s` is a 15-digit binary address. -/
def isAddress (s : String) : Bool :=
  s.length == Machine.addressWidth && s.toList.all fun c => c == '0' || c == '1'

/-- The data at `address` in a full memory. -/
def romLookup (rom : Array RomEntry) (address : String) : Option String :=
  if isAddress address then
    match Word.ofBits address with
    | .ok n => match rom[n.toNat]? with
      | some e => if e.address == address then some e.data else none
      | none => none
    | .error _ => none
  else none

/-- The entries with their data cut down to bits `hi` to `lo`, counted from the right. -/
def dataSlice (entries : List RomEntry) (hi lo : Int) : Except Fault (List RomEntry) :=
  entries.mapM fun e => do
    let d ← Bitdef.extract e.data.toList hi lo
    pure ⟨e.address, String.ofList d⟩

/-- The number of bytes needed to hold the bits of `s`. -/
def byteCount (s : String) : Nat := (s.length + 7) / 8

/-- The memory cut into 8-bit slices, by the width of its first entry's data. -/
def sliceRom (entries : List RomEntry) : Except Fault (List (Nat × List RomEntry)) := do
  let e ← first entries
  (List.range (byteCount e.data)).mapM fun (i : Nat) => do
    let s ← dataSlice entries ((8 * i + 7 : Nat) : Int) ((8 * i : Nat) : Int)
    pure (i, s)

end ByteMachine.Microcode
