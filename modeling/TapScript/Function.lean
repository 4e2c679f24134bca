import TapScript.Block
import TapScript.Command.Basic
import TapScript.Station
import TapScript.Text.WordChar

/-!
# Functions of a script

Before a script runs, its function definitions are collected. A definition is a header such as
`fun greet(name) {` or `greet(name) {` and the block that it opens. Definitions inside a definition
do not count, the last definition of a name counts, and commands cannot be redefined.

* `Function.header?` reads a header.
* `Function.definitions` are the definitions among some lines, `Registry.ofLines` the functions that
  they define.
-/

namespace TapScript

/-- A function of the script. -/
structure Function where
  name : Text
  params : List Text
  body : List Line
deriving DecidableEq, Repr

namespace Function

/-- The words in front of a block that is no definition. -/
def keywords : List Text := ["if".toList, "while".toList, "else".toList, "fun".toList]

/-- The parameters between the parentheses of a header. Empty places are skipped. -/
def parameters (t : Text) : List Text :=
  let (first, others) := Text.fields ',' t
  ((first :: others).map Text.trim).filter fun p => !p.isEmpty

/-- Name and parameters of a header `name(params) {`. -/
def signature? : Text → Option (Text × List Text)
  | [] => none
  | c :: r => do
    guard (Text.isNameStart c)
    let tail := r.takeWhile Text.isWordChar
    let opened ← Text.after? ['('] (Text.trimStart (r.drop tail.length))
    let inner := opened.takeWhile fun c => c != '(' && c != ')'
    let closed ← Text.after? [')'] (opened.drop inner.length)
    guard (Text.trimStart closed == ['{'])
    some (c :: tail, parameters inner)

/-- What follows the word `fun` and at least one blank. -/
def afterFun? (t : Text) : Option Text := do
  let r ← Text.after? "fun".toList t
  guard ((r.head?.map Text.isBlank).getD false)
  some (Text.trimStart r)

/-- Name and parameters of a definition's header. -/
def header? (t : Text) : Option (Text × List Text) :=
  let t := Text.trim t
  (signature? ((afterFun? t).getD t)).filter fun (name, _) => !keywords.contains name

/-- The definitions among the lines, each with the number of its header's line. The first `skip`
lines belong to a definition already found. -/
def definitions : (skip : Nat) → List Line → List (Nat × Function)
  | _, [] => []
  | skip + 1, _ :: rest => definitions skip rest
  | 0, line :: rest =>
    match header? line.text with
    | none => definitions 0 rest
    | some (name, params) =>
      let last := Block.finish (line :: rest) 0
      (line.number, ⟨name, params, Block.body (line :: rest) 0 last⟩) :: definitions last rest

end Function

/-- The functions of a script, at most one for a name. -/
structure Registry where
  functions : List Function

namespace Registry

/-- No functions. -/
def empty : Registry := ⟨[]⟩

/-- The function with the name. -/
def get? (r : Registry) (name : Text) : Option Function := r.functions.find? fun f => f.name == name

/-- How many functions there are. -/
def size (r : Registry) : Nat := r.functions.length

/-- The functions with one more, which replaces the one with its name. -/
def define (r : Registry) (f : Function) : Registry :=
  ⟨f :: r.functions.filter fun f' => f'.name != f.name⟩

/-- The functions with one more definition, and what is to be noted about it. -/
def add (r : Registry) (number : Nat) (f : Function) : Registry × List Record :=
  let name := String.ofList f.name
  if Builtin.isNameOf f.name then
    (r, [⟨.warn, "Definition shadows a built-in; ignored",
      [("line", toString number), ("name", name)]⟩])
  else if (r.get? f.name).isSome then
    (r.define f, [⟨.debug, "Function redefined; later definition wins", [("name", name)]⟩])
  else (r.define f, [])

/-- The functions with some more definitions, and what is to be noted about them. -/
def addAll (r : Registry) : List (Nat × Function) → Registry × List Record
  | [] => (r, [])
  | (number, f) :: rest =>
    let (r, notes) := r.add number f
    let (r, others) := addAll r rest
    (r, notes ++ others)

/-- The functions that the lines define, and what is to be noted about the definitions. -/
def ofLines (lines : List Line) : Registry × List Record :=
  empty.addAll (Function.definitions 0 lines)

end Registry

end TapScript
