import ByteMachine.Assembly.Checks
/- Assembling a program. Each line is read on its own, numbered from 1;
   a refused line refuses the program, naming the line. After the structure
   checks, the bytes of machine code are numbered in order from 0. Each
   label names the first instruction line after it. Every constant byte
   then gets its bits: a label the number of the byte it names, a number
   its value in two's complement, and a variable its address in data
   memory. Variables get consecutive addresses from the start offset on, in
   the order in which each is first declared or used. -/
namespace ByteMachine.Assembly

/-- The lines read one by one, numbered from `n`; a refused line refuses them all. -/
def readLines (n : Nat) : List String → Except Fault (List Line)
  | [] => .ok []
  | raw :: rest => do
    let l ← match processLine raw with
      | .ok l => pure { l with number := n }
      | .error (.line f) => throw (.assembly n raw (.line f))
      | .error f => throw f
    let more ← readLines (n + 1) rest
    pure (l :: more)

/-- The bytes numbered in order from `next` on. -/
def numberBytes (next : Nat) : List Line → List Line
  | [] => []
  | l :: rest =>
    match l.code with
    | some bs =>
      let bs' := bs.zipIdx.map fun p => { p.1 with index := ((next + p.2 : Nat) : Int) }
      { l with code := some bs' } :: numberBytes (next + bs.length) rest
    | none => l :: numberBytes next rest

/-- Each label given to the first instruction line after it; `pending` waits for one. -/
def assignLabels (pending : Option String) : List Line → List Line
  | [] => []
  | l :: rest =>
    let pending := if pending.isNone then (if l.label.isSome then l.label else pending) else pending
    if l.code.isSome ∧ pending.isSome then
      { l with assigned := pending } :: assignLabels none rest
    else l :: assignLabels pending rest

/-- The bits of each assigned label: the number of the byte it names. The
most recent entry comes first. -/
def labelMap (next : Nat) (acc : List (String × String)) :
    List Line → Except Fault (List (String × String))
  | [] => .ok acc
  | l :: rest => do
    let acc ← match l.assigned with
      | some lab => pure ((lab, ← Word.toBits next 8) :: acc)
      | none => pure acc
    labelMap (next + (l.code.map List.length).getD 0) acc rest

/-- The bits of each variable, in order of first declaration or use, from `next` on.
The most recent entry comes first. -/
def variableMap (next : Int) (acc : List (String × String)) :
    List Line → Except Fault (List (String × String))
  | [] => .ok acc
  | l :: rest =>
    match l.declared with
    | some v =>
      if (acc.lookup v).isSome then variableMap next acc rest
      else do
        let bits ← Word.toBits next 8
        variableMap (next + 1) ((v, bits) :: acc) rest
    | none => do
      let (next, acc) ← (l.code.getD []).foldlM
        (fun (st : Int × List (String × String)) b =>
          if b.holds .variable && (st.2.lookup b.constant).isNone then do
            let bits ← Word.toBits st.1 8
            pure (st.1 + 1, (b.constant, bits) :: st.2)
          else pure st)
        (next, acc)
      variableMap next acc rest

/-- Give the bytes of kind `k` the bits that `f` finds for them. -/
def resolve (k : ConstKind) (f : CodeByte → Except Fault String) (lines : List Line) :
    Except Fault (List Line) :=
  lines.mapM fun l =>
    match l.code with
    | some bs => do
      let bs ← bs.mapM fun b => if b.holds k then do pure { b with bits := ← f b } else pure b
      pure { l with code := some bs }
    | none => pure l

/-- The entry for `key`, or the fault that it is missing. -/
def find (m : List (String × String)) (key : String) : Except Fault String :=
  match m.lookup key with
  | some v => .ok v
  | none => .error (.missingKey key)

/-- The lines of the program with every byte numbered and every constant resolved. -/
def assembleLines (lines : List String) (offset : Int) : Except Fault (List Line) := do
  let ls ← readLines 1 lines
  checkStructure ls offset
  let ls := assignLabels none (numberBytes 0 ls)
  let labels ← labelMap 0 [] ls
  let ls ← resolve .label (fun b => find labels b.constant) ls
  let ls ← resolve .number (fun b => Word.toBits b.value 8) ls
  let vars ← variableMap offset [] ls
  resolve .variable (fun b => find vars b.constant) ls

/-- The bits of every byte of the program, in order. -/
def machineCode (lines : List Line) : List String :=
  lines.flatMap fun l => (l.code.getD []).map (·.bits)

end ByteMachine.Assembly
