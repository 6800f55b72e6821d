import StorageBroker.Yaml.Graph
/-!
# Taking in entries

A mapping may hold a key that takes in the entries of another mapping, or of several in a sequence.
The entries taken in come in front of its own, so that its own hold where both have a key; of
several mappings the first one comes last for the same reason. The mappings taken in take in their
own first, and one that takes in itself has done so already.

Each round removes one such key and none is ever added, so their number bounds the rounds.

* `firstMerge?_eq_none_iff` -- when a mapping takes in nothing more;
* `takeIn_of_none` -- such a mapping keeps its entries.
-/

namespace StorageBroker.Yaml.Graph

/-! ## 1. Keys -/

/-- Where the first key stands that takes in entries, with its value. -/
def firstMerge? (g : Graph) : List (Nat × Nat) → Option (Nat × Nat)
  | [] => none
  | (k, v) :: es =>
    if g.tag k = .merge then some (0, v) else (g.firstMerge? es).map fun p => (p.1 + 1, p.2)

theorem firstMerge?_eq_none_iff {g : Graph} {es : List (Nat × Nat)} :
    g.firstMerge? es = none ↔ ∀ e ∈ es, g.tag e.1 ≠ .merge := by
  induction es with
  | nil => simp [firstMerge?]
  | cons e es ih =>
    by_cases h : g.tag e.1 = .merge <;> simp [firstMerge?, h, ih]

/-- The graph where the keys of plain values among some entries are texts. -/
def namePlainValues (g : Graph) (es : List (Nat × Nat)) : Graph :=
  es.foldl (fun g e => if g.tag e.1 = .plainValue then g.setTag e.1 .text else g) g

/-- How many keys of all mappings take in entries. -/
def mergeCount (g : Graph) : Nat :=
  g.toList.foldl (fun count n => match n.content with
    | .mapping es => count + es.countP fun e => g.tag e.1 == .merge
    | _ => count) 0

/-! ## 2. Mappings -/

/-- The entries of a node that has to be a mapping. -/
def entriesOf (g : Graph) (i : Nat) : Except Problem (List (Nat × Nat)) :=
  match g.entries? i with
  | some es => .ok es
  | none => .error .grammar

/-- The graph in which a mapping holds the entries taken in and then its own. -/
def complete (g : Graph) (i : Nat) (taken es : List (Nat × Nat)) : Graph :=
  (g.namePlainValues es).setContent i (.mapping (taken ++ es))

/-- Lets a mapping take in what its keys say; `taken` has been taken in before. -/
def takeIn : (bound : Nat) → (g : Graph) → (i : Nat) → (taken : List (Nat × Nat)) →
    Except Problem Graph
  | 0, g, i, taken => do return g.complete i taken (← g.entriesOf i)
  | bound + 1, g, i, taken => do
    let es ← g.entriesOf i
    match g.firstMerge? es with
    | none => return g.complete i taken es
    | some (place, source) =>
      let g := g.setContent i (.mapping (es.eraseIdx place))
      match g.content source with
      | .mapping _ =>
        let g ← takeIn bound g source []
        takeIn bound g i (taken ++ (← g.entriesOf source))
      | .sequence sources =>
        let (g, groups) ← sources.foldlM (fun (g, groups) s => do
          let g ← takeIn bound g s []
          return (g, (← g.entriesOf s) :: groups)) (g, [])
        takeIn bound g i (taken ++ groups.flatten)
      | .scalar _ => throw .grammar

theorem takeIn_of_none {g : Graph} {i : Nat} {es : List (Nat × Nat)} (he : g.entriesOf i = .ok es)
    (h : g.firstMerge? es = none) (bound : Nat) (taken : List (Nat × Nat)) :
    takeIn bound g i taken = .ok (g.complete i taken es) := by
  cases bound <;> simp [takeIn, he, h, bind, Except.bind, pure, Except.pure]

/-- **The graph in which a mapping holds the entries that it takes in.** -/
def flatten (g : Graph) (i : Nat) : Except Problem Graph := takeIn g.mergeCount g i []

end StorageBroker.Yaml.Graph
