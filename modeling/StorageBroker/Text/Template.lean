import StorageBroker.Value.Written
import StorageBroker.Malformed
import StorageBroker.Text.Percent
/-!
# Templates of resource paths

A resource path is a template with holes; every hole is filled with the percent-encoded form of one
argument, so an argument never adds a segment, a query or a fragment to the path.

* `fillWith_isSome_iff` -- a template is filled exactly by as many arguments as it has holes;
* `encoded_plain` -- a text without halves is filled in in its percent-encoded form.
-/

namespace StorageBroker.Text

/-- A part of a template. -/
inductive Piece where
  | literal (cs : List Char)
  | hole
deriving DecidableEq, Repr

/-- A path with holes. -/
abbrev Template := List Piece

namespace Template

def holes : Template → Nat
  | [] => 0
  | .literal _ :: rest => holes rest
  | .hole :: rest => holes rest + 1

/-- The path with its holes filled in order; none if there are more or fewer arguments. -/
def fillWith : Template → List (List Char) → Option (List Char)
  | [], [] => some []
  | [], _ :: _ => none
  | .literal cs :: rest, args => (fillWith rest args).map (cs ++ ·)
  | .hole :: _, [] => none
  | .hole :: rest, arg :: args => (fillWith rest args).map (arg ++ ·)

theorem fillWith_isSome_iff (t : Template) (args : List (List Char)) :
    (fillWith t args).isSome ↔ args.length = t.holes := by
  induction t generalizing args with
  | nil => cases args <;> simp [fillWith, holes]
  | cons p rest ih =>
    cases p with
    | literal cs => simp [fillWith, holes, ih]
    | hole => cases args <;> simp [fillWith, holes, ih]

/-- The report of a wrong number of arguments. -/
def wrongCount (t : Template) (count : Nat) : Malformed :=
  if count < t.holes then .kind "not enough arguments for format string"
  else .kind "not all arguments converted during string formatting"

/-- What fills a hole for an argument; a half has no bytes. -/
def encoded (v : Value) : Except Malformed (List Char) :=
  match Utf8.encode? v.plain with
  | some bs => .ok (bs.flatMap Percent.encodeByte)
  | none => .error (.unencodable "surrogates not allowed")

theorem encoded_plain (s : String) : encoded (.text s) = .ok (Percent.encode s.toList) := rfl

/-- The path of a template and its arguments. -/
def fill (t : Template) (args : List Value) : Except Malformed String := do
  match t.fillWith (← args.mapM encoded) with
  | some cs => return String.ofList cs
  | none => throw (t.wrongCount args.length)

end Template

end StorageBroker.Text
