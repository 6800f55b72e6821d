import Mathlib.Data.List.Induction
import StorageBroker.Text
/-!
# Where paths lead

A path is read segment by segment. An empty segment and a single dot say nothing, two dots go back
by one name, and every other segment is a name to go on to. There is no way back from the root. A
relative path comes to the same from wherever it starts: it leaves a number of names behind, and
then goes on to others.

* `Move`, `step`, `walk` -- what segments ask for, and where they lead from a place;
* `placeOf` -- the place of a path that is read from the root;
* `Route` -- what a relative path comes to;
* `walk_eq_lead` -- a path leads from every place to where its route does;
* `prefix_lead_iff` -- it stays below the place exactly if it goes into again what it has left;
* `climbs_eq_zero_iff` -- it leaves nothing exactly if at no point it has gone back more often than
  it has gone on.
-/

namespace StorageBroker.Text.Path

/-! ## 1. Segments -/

/-- What a segment of a path asks for. -/
inductive Move where
  | stay
  | back
  | into (name : Text)
deriving DecidableEq, Repr

/-- Texts that a directory can have for its name. -/
structure IsName (s : Text) : Prop where
  nonempty : s ≠ ""
  ne_dot : s ≠ "."
  ne_dots : s ≠ ".."
  no_slash : Character.scalar '/' ∉ s.toList

instance (s : Text) : Decidable (IsName s) :=
  decidable_of_iff (s ≠ "" ∧ s ≠ "." ∧ s ≠ ".." ∧ Character.scalar '/' ∉ s.toList)
    ⟨fun ⟨h₁, h₂, h₃, h₄⟩ => ⟨h₁, h₂, h₃, h₄⟩, fun ⟨h₁, h₂, h₃, h₄⟩ => ⟨h₁, h₂, h₃, h₄⟩⟩

def moveOf (s : Text) : Move :=
  if s = "" ∨ s = "." then .stay else if s = ".." then .back else .into s

/-- **The moves of a path**, one for each segment between its slashes. -/
def moves (path : Text) : List Move :=
  (path.toList.splitOn (.scalar '/')).map fun segment => moveOf (Text.ofList segment)

theorem moveOf_name {s : Text} (h : IsName s) : moveOf s = .into s := by
  rw [moveOf, if_neg (not_or.2 ⟨h.nonempty, h.ne_dot⟩), if_neg h.ne_dots]

/-- A name is one segment. -/
theorem moves_name {s : Text} (h : IsName s) : moves s = [.into s] := by
  rw [moves, List.splitOn_eq_singleton h.no_slash, List.map_singleton, Text.ofList_toList,
    moveOf_name h]

/-- What stands on both sides of a slash is read on its own. -/
theorem moves_slash (s t : Text) : moves (s ++ "/" ++ t) = moves s ++ moves t := by
  have htext : (s ++ "/" ++ t).toList = s.toList ++ .scalar '/' :: t.toList := by
    rw [toList_append, toList_append, List.append_assoc]
    rfl
  rw [moves, htext, List.splitOn_append_cons_self, List.map_append]
  rfl

theorem moves_empty : moves "" = [.stay] := by decide

/-! ## 2. Places -/

/-- One move from a place, which is given by the names on the way to it. -/
def step (place : List Text) : Move → List Text
  | .stay => place
  | .back => place.dropLast
  | .into name => place ++ [name]

/-- **The place that moves lead to.** -/
def walk (place : List Text) (ms : List Move) : List Text := ms.foldl step place

/-- **The place of a path** that is read from the root. -/
def placeOf (path : Text) : List Text := walk [] (moves path)

variable (place : List Text)

theorem walk_append (ms ns : List Move) : walk place (ms ++ ns) = walk (walk place ms) ns :=
  List.foldl_append

/-- A path below two names starts from their place. -/
theorem placeOf_below {s t : Text} (hs : IsName s) (ht : IsName t) (relative : Text) :
    placeOf ("/" ++ s ++ "/" ++ t ++ "/" ++ relative) = walk [s, t] (moves relative) := by
  have hroot : "/" ++ s = "" ++ "/" ++ s := rfl
  rw [placeOf, hroot, moves_slash, moves_slash, moves_slash, moves_empty, moves_name hs,
    moves_name ht, walk_append]
  rfl

/-! ## 3. Routes -/

/-- **What a relative path comes to**: the number of names that it leaves behind, and the names
that it goes on to from there. -/
structure Route where
  climbs : Nat
  names : List Text
deriving DecidableEq, Repr

namespace Route

def start : Route := ⟨0, []⟩

/-- The route with one more move. Going back takes the last name off again, if there is one. -/
def step (r : Route) : Move → Route
  | .stay => r
  | .back =>
    if r.names = [] then { r with climbs := r.climbs + 1 }
    else { r with names := r.names.dropLast }
  | .into name => { r with names := r.names ++ [name] }

def ofMoves (ms : List Move) : Route := ms.foldl step start

/-- **The route of a path.** -/
def of (path : Text) : Route := ofMoves (moves path)

/-- Where a route leads from a place. -/
def lead (r : Route) (place : List Text) : List Text :=
  place.take (place.length - r.climbs) ++ r.names

theorem lead_start : start.lead place = place := by
  simp [lead, start]

theorem lead_of_climbs_eq_zero {r : Route} (h : r.climbs = 0) :
    r.lead place = place ++ r.names := by
  rw [lead, h, Nat.sub_zero, List.take_length]

/-- **A move more leads on from where the route leads.** -/
theorem lead_step (r : Route) (m : Move) : (r.step m).lead place = Path.step (r.lead place) m := by
  cases m with
  | stay => rfl
  | into name => exact (List.append_assoc ..).symm
  | back =>
    rw [step, Path.step]
    split
    next hnone =>
      -- there is no name to take off, so the place itself loses one more
      have hlength : min (place.length - r.climbs - 1) (place.length - r.climbs) =
          place.length - (r.climbs + 1) := by omega
      simp only [lead, hnone, List.append_nil, List.dropLast_eq_take, List.length_take,
        List.take_take, Nat.min_eq_left (Nat.sub_le place.length r.climbs), hlength]
    next hsome =>
      rw [lead, lead, List.dropLast_append_of_ne_nil hsome]

end Route

open Route

/-- **A path leads from every place to where its route does.** -/
theorem walk_eq_lead (ms : List Move) : walk place ms = (ofMoves ms).lead place := by
  have hfrom : ∀ r : Route, walk (r.lead place) ms = (ms.foldl Route.step r).lead place := by
    induction ms with
    | nil => exact fun r => rfl
    | cons m ms ih =>
      intro r
      rw [List.foldl_cons, ← ih, Route.lead_step]
      rfl
  rw [ofMoves, ← hfrom, lead_start]

example : Route.of "a/../../b/./c//" = ⟨1, ["b", "c"]⟩ := by decide

/-- From the root a path leads to what its route goes on to. -/
theorem placeOf_eq_names (path : Text) : placeOf path = (Route.of path).names := by
  rw [placeOf, walk_eq_lead, lead, List.take_nil, List.nil_append]
  rfl

/-- **A route stays below a place exactly if it goes into again all that it has left of it.** -/
theorem prefix_lead_iff (r : Route) :
    place <+: r.lead place ↔ place.drop (place.length - r.climbs) <+: r.names := by
  have hsplit : place = place.take (place.length - r.climbs) ++
      place.drop (place.length - r.climbs) := (List.take_append_drop _ _).symm
  calc place <+: r.lead place
      ↔ place.take (place.length - r.climbs) ++ place.drop (place.length - r.climbs) <+:
          r.lead place := by rw [← hsplit]
    _ ↔ place.drop (place.length - r.climbs) <+: r.names := by
        rw [lead, List.prefix_append_right_inj]

/-! ## 4. Going back -/

def Move.isInto : Move → Bool
  | .into _ => true
  | _ => false

/-- At no point has a path gone back more often than it has gone on. -/
def Descends (ms : List Move) : Prop :=
  ∀ before, before <+: ms → before.count .back ≤ before.countP Move.isInto

theorem ofMoves_concat (ms : List Move) (m : Move) :
    ofMoves (ms ++ [m]) = (ofMoves ms).step m :=
  List.foldl_append

/-- A move back takes a name off, or leaves one behind. -/
theorem step_balance (r : Route) (m : Move) :
    [m].count .back + (r.step m).names.length + r.climbs =
      [m].countP Move.isInto + r.names.length + (r.step m).climbs := by
  cases m with
  | stay => simp [Route.step, Move.isInto]
  | into name =>
    simp [Route.step, Move.isInto]
    omega
  | back =>
    rw [Route.step]
    split
    next hnone =>
      simp [hnone, Move.isInto]
      omega
    next hsome =>
      have hpos := List.length_pos_iff.2 hsome
      simp [Move.isInto]
      omega

theorem balance (ms : List Move) :
    ms.count .back + (ofMoves ms).names.length = ms.countP Move.isInto + (ofMoves ms).climbs := by
  induction ms using List.reverseRecOn with
  | nil => rfl
  | append_singleton ms m ih =>
    have hstep := step_balance (ofMoves ms) m
    rw [ofMoves_concat, List.count_append, List.countP_append]
    omega

/-- A move leaves a name behind only if there is none to take off. -/
theorem step_climbs (r : Route) (m : Move) :
    (r.step m).climbs = r.climbs ∨
      (r.step m).climbs = r.climbs + 1 ∧ (r.step m).names = [] := by
  cases m with
  | stay => exact .inl rfl
  | into name => exact .inl rfl
  | back =>
    rw [Route.step]
    split
    next hnone => exact .inr ⟨rfl, hnone⟩
    next => exact .inl rfl

theorem climbs_mono {before ms : List Move} (h : before <+: ms) :
    (ofMoves before).climbs ≤ (ofMoves ms).climbs := by
  obtain ⟨rest, rfl⟩ := h
  induction rest using List.reverseRecOn with
  | nil => exact Nat.le_of_eq (by rw [List.append_nil])
  | append_singleton rest m ih =>
    have hstep := step_climbs (ofMoves (before ++ rest)) m
    rw [← List.append_assoc, ofMoves_concat]
    omega

/-- **A path leaves nothing behind exactly if it has gone on before it goes back**, at every point
of it. -/
theorem climbs_eq_zero_iff (ms : List Move) : (ofMoves ms).climbs = 0 ↔ Descends ms := by
  constructor
  · intro hzero before hbefore
    have hmono := climbs_mono hbefore
    have hbalance := balance before
    omega
  · intro h
    induction ms using List.reverseRecOn with
    | nil => rfl
    | append_singleton ms m ih =>
      have hzero := ih fun before hbefore => h before (hbefore.trans (List.prefix_append ms [m]))
      have hwhole := h (ms ++ [m]) (List.prefix_refl _)
      have hbalance := balance (ms ++ [m])
      rw [ofMoves_concat] at hbalance ⊢
      obtain hkept | ⟨hgrown, hnone⟩ := step_climbs (ofMoves ms) m
      · exact hkept.trans hzero
      · rw [hgrown, hnone, List.length_nil] at hbalance
        omega

end StorageBroker.Text.Path
