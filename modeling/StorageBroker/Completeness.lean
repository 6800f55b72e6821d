import StorageBroker.Record
/-!
# Needed attributes

Some operations need attributes to be set before they can be used. The first one that has no value,
or a value that counts as false, is reported.

* `checkAll_eq_ok_iff` -- a check passes exactly when it passes for each attribute;
* `checkObject` -- the needed attributes are themselves an attribute.
-/

namespace StorageBroker.Completeness

/-- The report of an attribute that is not set. -/
def unset (operation name : Text) : Fault :=
  .configuration (operation ++ " needs " ++ name ++ " to be set.")

/-- The attributes that every object has, and that count as set. -/
def innate : List Text :=
  ["__class__", "__delattr__", "__dict__", "__dir__", "__eq__", "__format__", "__ge__",
   "__getattribute__", "__getstate__", "__gt__", "__hash__", "__init__", "__init_subclass__",
   "__le__", "__lt__", "__module__", "__ne__", "__new__", "__reduce__", "__reduce_ex__",
   "__repr__", "__setattr__", "__sizeof__", "__str__", "__subclasshook__"]

/-- Whether an attribute has a value that counts as true. -/
def isSet (attributes : Mapping) (name : Text) : Bool :=
  match Mapping.get attributes name with
  | some v => v.truthy
  | none => innate.contains name

/-- Checks one attribute, which is told by its name. -/
def checkOne (operation : Text) (attributes : Mapping) (name : Value) : Except Fault Unit :=
  match name with
  | .text n => if isSet attributes n then .ok () else .error (unset operation n)
  | _ => .error (.malformed (.kind "attribute name must be string"))

/-- Checks attributes in order. -/
def checkAll (operation : Text) (attributes : Mapping) : List Value → Except Fault Unit
  | [] => .ok ()
  | name :: names => do
    checkOne operation attributes name
    checkAll operation attributes names

theorem checkAll_eq_ok_iff (operation : Text) (attributes : Mapping) (names : List Value) :
    checkAll operation attributes names = .ok () ↔
      ∀ name ∈ names, checkOne operation attributes name = .ok () := by
  induction names with
  | nil => simp [checkAll]
  | cons name names ih =>
    rw [checkAll, List.forall_mem_cons, ← ih]
    cases checkOne operation attributes name <;> simp [bind, Except.bind]

/-- **The check of the attributes that an operation needs**, none if what lists them counts as
false. -/
def check (operation : Text) (needed : Value) (attributes : Mapping) : Except Fault Unit := do
  checkAll operation attributes (← Record.itemsOrNone needed)

/-- The attribute that lists the needed ones. -/
def neededName : Text := "_required_attributes"

/-- The check of an object that lists what it needs among its attributes. -/
def checkObject (operation : Text) (attributes : Mapping) : Except Fault Unit :=
  match Mapping.get attributes neededName with
  | some needed => check operation needed attributes
  | none => .error (.malformed (.lacks .null neededName))

end StorageBroker.Completeness
