import StorageBroker.Proofs.ReclaimPolicy
/-!
# Two forms of a list of policies

The policies that a request allows are given as a list of names, or as one text in which the names
stand between commas. There are many such texts for one list: a name may have blanks around it, and
a place between two commas may be blank. Whichever of them is given, it is read as the list is, and
what the check finds is the same.

* `Writes` -- the texts in which names are written;
* `itemsOf_of_writes`, `writes_itemsOf` -- the items of a text are the names that are written in it,
  and every text is one in which its items are written;
* `named` -- what a list of names comes to, said without reading any of them twice;
* `forms_agree` -- both forms come to that, and no check tells them apart.
-/

namespace StorageBroker

/-! ## 1. Blanks around a name -/

namespace Text

/-- Nothing but blanks. -/
def Blank (cs : List Character) : Prop := ∀ c ∈ cs, isBlankIn c

/-- A text that neither begins nor ends with a blank. -/
structure Trim (cs : List Character) : Prop where
  first : ∀ c, cs.head? = some c → isBlankIn c = false
  last : ∀ c, cs.getLast? = some c → isBlankIn c = false

theorem dropWhile_of_head? {p : Character → Bool} {cs : List Character}
    (h : ∀ c, cs.head? = some c → p c = false) : cs.dropWhile p = cs := by
  cases cs with
  | nil => rfl
  | cons c cs => rw [List.dropWhile_cons, h c rfl, if_neg Bool.false_ne_true]

/-- **Blanks around a text are taken away**, and nothing of the text is. -/
theorem strip_padded {before cs after : List Character} (hbefore : Blank before)
    (hafter : Blank after) (hne : cs ≠ []) (h : Trim cs) : strip (before ++ cs ++ after) = cs := by
  have hfront : (before ++ cs ++ after).dropWhile isBlankIn = cs ++ after := by
    rw [List.append_assoc, List.dropWhile_append_of_pos hbefore]
    refine dropWhile_of_head? fun c hc => h.first c ?_
    rwa [List.head?_append_of_ne_nil cs hne] at hc
  have hback : (cs ++ after).reverse.dropWhile isBlankIn = cs.reverse := by
    rw [List.reverse_append, List.dropWhile_append_of_pos]
    · refine dropWhile_of_head? fun c hc => h.last c ?_
      rwa [List.head?_reverse] at hc
    · intro c hc
      exact hafter c (List.mem_reverse.1 hc)
  rw [strip, stripWhile, hfront, hback, List.reverse_reverse]

/-- What is left of a list behind the items that a test picks does not begin with one. -/
theorem head?_dropWhile {p : Character → Bool} {cs : List Character} {c : Character}
    (h : (cs.dropWhile p).head? = some c) : p c = false := by
  have hnot := List.head?_dropWhile_not p cs
  rw [h] at hnot
  exact hnot

/-- What a test picks in front of a list passes it. -/
theorem blank_takeWhile (cs : List Character) : Blank (cs.takeWhile isBlankIn) := by
  intro c hc
  exact List.all_eq_true.1 List.all_takeWhile c hc

/-- **A text is what is left of it with blanks around.** -/
theorem exists_padding (cs : List Character) :
    ∃ before after, Blank before ∧ Blank after ∧ Trim (strip cs) ∧
      cs = before ++ strip cs ++ after := by
  -- The blanks in front are taken away first, and those at the end are in front seen from behind.
  let front := cs.dropWhile isBlankIn
  let after := (front.reverse.takeWhile isBlankIn).reverse
  have hfront : cs.takeWhile isBlankIn ++ front = cs := List.takeWhile_append_dropWhile
  have hback : strip cs ++ after = front := by
    show (front.reverse.dropWhile isBlankIn).reverse ++ after = front
    rw [← List.reverse_append, List.takeWhile_append_dropWhile, List.reverse_reverse]
  refine ⟨cs.takeWhile isBlankIn, after, blank_takeWhile cs, ?_, ?_, ?_⟩
  · intro c hc
    exact blank_takeWhile _ c (List.mem_reverse.1 hc)
  · constructor
    · intro c hc
      have hhead : front.head? = some c := by
        rw [← hback, List.head?_append, hc]
        rfl
      exact head?_dropWhile hhead
    · intro c hc
      rw [strip, stripWhile, List.getLast?_reverse] at hc
      exact head?_dropWhile hc
  · rw [List.append_assoc, hback, hfront]

/-! ## 2. Texts in which names are written -/

/-- **A name as a list has it**: not empty, without commas, and without blanks at either end. -/
structure IsItem (name : Text) : Prop where
  ne_empty : name ≠ ""
  no_comma : Character.scalar ',' ∉ name.toList
  trim : Trim name.toList

/-- **The places between commas in which names are written**, in order: a place is blank, or it has
the next name in it, with blanks around. -/
inductive Places : List Text → List (List Character) → Prop where
  | done : Places [] []
  | blank {place : List Character} {names : List Text} {places : List (List Character)}
      (h : Blank place) (rest : Places names places) : Places names (place :: places)
  | item {before after : List Character} {name : Text} {names : List Text}
      {places : List (List Character)} (hbefore : Blank before) (hafter : Blank after)
      (rest : Places names places) :
      Places (name :: names) ((before ++ name.toList ++ after) :: places)

/-- **A text in which names are written**: its places with commas between them. -/
def Writes (names : List Text) (s : Text) : Prop :=
  ∃ places, Places names places ∧ s.toList = [.scalar ','].intercalate places

theorem IsItem.toList_ne_nil {name : Text} (h : IsItem name) : name.toList ≠ [] := by
  intro hnil
  exact h.ne_empty (toList_injective hnil)

theorem not_mem_of_blank {cs : List Character} (h : Blank cs) : Character.scalar ',' ∉ cs := by
  intro hc
  exact absurd (h (.scalar ',') hc) (by decide)

theorem hasContent_of_blank {cs : List Character} (h : Blank cs) : hasContent cs = false := by
  rw [← isEmpty_strip, strip_eq_nil_iff.2 h]
  rfl

theorem blank_of_not_hasContent {cs : List Character} (h : hasContent cs = false) : Blank cs := by
  rw [← isEmpty_strip, Bool.not_eq_false'] at h
  exact strip_eq_nil_iff.1 (List.isEmpty_iff.1 h)

/-- No place has a comma in it. -/
theorem Places.no_comma {names : List Text} {places : List (List Character)}
    (hnames : ∀ name ∈ names, IsItem name) (h : Places names places) :
    ∀ place ∈ places, Character.scalar ',' ∉ place := by
  induction h with
  | done => exact fun _ hplace => absurd hplace List.not_mem_nil
  | blank hblank _ ih => exact List.forall_mem_cons.2 ⟨not_mem_of_blank hblank, ih hnames⟩
  | item hbefore hafter _ ih =>
    obtain ⟨hname, hrest⟩ := List.forall_mem_cons.1 hnames
    refine List.forall_mem_cons.2 ⟨?_, ih hrest⟩
    intro hc
    rcases List.mem_append.1 hc with hc | hc
    · rcases List.mem_append.1 hc with hc | hc
      · exact not_mem_of_blank hbefore hc
      · exact hname.no_comma hc
    · exact not_mem_of_blank hafter hc

/-- **The places that are not blank hold the names**, in order. -/
theorem Places.items {names : List Text} {places : List (List Character)}
    (hnames : ∀ name ∈ names, IsItem name) (h : Places names places) :
    (places.filter hasContent).map (fun place => ofList (strip place)) = names := by
  induction h with
  | done => rfl
  | blank hblank _ ih =>
    rw [List.filter_cons_of_neg (by simp [hasContent_of_blank hblank])]
    exact ih hnames
  | @item before after name _ _ hbefore hafter _ ih =>
    obtain ⟨hname, hrest⟩ := List.forall_mem_cons.1 hnames
    have hstrip : strip (before ++ name.toList ++ after) = name.toList :=
      strip_padded hbefore hafter hname.toList_ne_nil hname.trim
    have hcontent : hasContent (before ++ name.toList ++ after) := by
      rw [← isEmpty_strip, hstrip, List.isEmpty_eq_false_iff.2 hname.toList_ne_nil]
      rfl
    rw [List.filter_cons_of_pos hcontent, List.map_cons, hstrip, ofList_toList, ih hrest]

/-- **However names are written in a text, they are its items.** -/
theorem itemsOf_of_writes {names : List Text} {s : Text}
    (hnames : ∀ name ∈ names, IsItem name) (h : Writes names s) : itemsOf s = names := by
  obtain ⟨places, hplaces, hs⟩ := h
  rw [itemsOf, hs]
  by_cases hne : places = []
  · -- A text without any place is empty, and so it is one blank place.
    subst hne
    cases hplaces
    rfl
  · rw [List.splitOn_intercalate (.scalar ',') (hplaces.no_comma hnames) hne]
    exact hplaces.items hnames

/-- The parts of a text are places for its items. -/
theorem places_filter {places : List (List Character)}
    (h : ∀ place ∈ places, Character.scalar ',' ∉ place) :
    Places ((places.filter hasContent).map fun place => ofList (strip place)) places ∧
      ∀ place ∈ places.filter hasContent, IsItem (ofList (strip place)) := by
  induction places with
  | nil => exact ⟨.done, fun _ hplace => absurd hplace List.not_mem_nil⟩
  | cons place places ih =>
    obtain ⟨hcomma, hrest⟩ := List.forall_mem_cons.1 h
    obtain ⟨hplaces, hitems⟩ := ih hrest
    cases hcontent : hasContent place with
    | false =>
      rw [List.filter_cons_of_neg (by simp [hcontent])]
      exact ⟨.blank (blank_of_not_hasContent hcontent) hplaces, hitems⟩
    | true =>
      obtain ⟨before, after, hbefore, hafter, htrim, hpad⟩ := exists_padding place
      rw [List.filter_cons_of_pos hcontent]
      constructor
      · have hitem := @Places.item before after (ofList (strip place)) _ _ hbefore hafter
          hplaces
        rw [toList_ofList, ← hpad] at hitem
        exact hitem
      · refine List.forall_mem_cons.2 ⟨⟨?_, ?_, ?_⟩, hitems⟩
        · intro hempty
          have hnil : strip place = [] := by
            rw [← toList_ofList (strip place), hempty]
            rfl
          rw [← isEmpty_strip, hnil] at hcontent
          cases hcontent
        · rw [toList_ofList]
          intro hc
          apply hcomma
          rw [hpad]
          exact List.mem_append_left _ (List.mem_append_right _ hc)
        · rw [toList_ofList]
          exact htrim

/-- **Every text is one in which its items are written.** -/
theorem writes_itemsOf (s : Text) :
    (∀ name ∈ itemsOf s, IsItem name) ∧ Writes (itemsOf s) s := by
  have hparts : ∀ place ∈ s.toList.splitOn (.scalar ','), Character.scalar ',' ∉ place := by
    intro place hplace
    rw [← splitOn_eq_splitOn] at hplace
    exact not_mem_of_mem_splitOn hplace
  obtain ⟨hplaces, hitems⟩ := places_filter hparts
  refine ⟨?_, s.toList.splitOn (.scalar ','), hplaces, (List.intercalate_splitOn _).symm⟩
  intro name hname
  obtain ⟨place, hplace, rfl⟩ := List.mem_map.1 hname
  exact hitems place hplace

/-- **Texts of blanks and commas alone have no items**, and no other texts. -/
theorem itemsOf_eq_nil_iff {s : Text} :
    itemsOf s = [] ↔ ∀ c ∈ s.toList, c = ',' ∨ isBlankIn c := by
  rw [itemsOf, List.map_eq_nil_iff, List.filter_eq_nil_iff, ← splitOn_eq_splitOn,
    ← forall_mem_splitOn]
  refine forall₂_congr fun part _ => ?_
  rw [Bool.not_eq_true]
  exact ⟨blank_of_not_hasContent, hasContent_of_blank⟩

end Text

namespace ReclaimPolicy

open Text (IsItem Writes isBlankIn itemsOf itemsOf_of_writes itemsOf_eq_nil_iff writes_itemsOf)

variable {m m' : Mapping} {names : List Text} {v default : Value}

/-! ## 3. What a list of names comes to -/

/-- **What a list of names comes to**: the policies of these names in order, as often as they are
named, or the report of the first name that no policy has. -/
def named (names : List Text) : Except Malformed (List ReclaimPolicy) :=
  match names.find? fun name => (ofName? name).isNone with
  | some name => .error (unknown (.text name))
  | none => .ok (names.filterMap ofName?)

theorem mapM_parse_text (names : List Text) : (names.map Value.text).mapM parse = named names := by
  induction names with
  | nil => rfl
  | cons name names ih =>
    rw [List.map_cons, List.mapM_cons, ih]
    unfold named
    cases hname : ofName? name with
    | none =>
      have hparse : parse (.text name) = .error (unknown (.text name)) := by
        rw [parse, hname]
      rw [hparse, List.find?_cons_of_pos (by rw [hname]; rfl)]
      rfl
    | some p =>
      have hparse : parse (.text name) = .ok p := by
        rw [parse, hname]
      rw [hparse, List.find?_cons_of_neg (by rw [hname]; exact Bool.false_ne_true),
        List.filterMap_cons_some hname]
      cases names.find? fun name => (ofName? name).isNone with
      | none => rfl
      | some first => rfl

/-- What lists names allows what the names come to. -/
theorem allowed_of_items (hv : Mapping.get m Settings.allowedReclaimPolicies = some v)
    (hnull : v.isNull = false) (hitems : allowedItems v = .ok (names.map .text)) :
    allowed (.mapping m) = named names := by
  rw [allowed, settingOf_mapping, hv]
  show (if v.isNull then _ else allowedItems v >>= fun xs => xs.mapM parse) = _
  rw [hnull, if_neg Bool.false_ne_true, hitems]
  exact mapM_parse_text names

theorem allowedItems_text (s : Text) :
    allowedItems (.text s) = .ok ((itemsOf s).map .text) := by
  rw [allowedItems, ← namesIn_eq, List.map_map]
  rfl

/-- A check sees of the allowed policies what they are read as. -/
theorem ofParameters_of_allowed_eq
    (hpolicy : Mapping.get m' Settings.reclaimPolicy = Mapping.get m Settings.reclaimPolicy)
    (hallowed : allowed (.mapping m') = allowed (.mapping m)) :
    Check.ofParameters (.mapping m') default = Check.ofParameters (.mapping m) default := by
  simp only [Check.ofParameters, requested, settingOf_mapping, hpolicy, hallowed]

/-! ## 4. Both forms -/

/-- **The two forms of a list of policies agree.** Names in a list, and the same names in a text
between commas, however many blanks and blank places there are, allow the same: the policies of
these names in order, or they fail by the same first unknown name. A check finds the same with both,
whatever policy is asked for and whatever the default is. A text of blanks and commas allows nothing,
as the empty list does. There are no other texts: every one of them is a list of its items. -/
theorem forms_agree {s : Text} {listed written : Mapping}
    (hnames : ∀ name ∈ names, IsItem name) (hs : Writes names s)
    (hlisted : Mapping.get listed Settings.allowedReclaimPolicies =
      some (.list (names.map .text)))
    (hwritten : Mapping.get written Settings.allowedReclaimPolicies = some (.text s))
    (hpolicy : Mapping.get written Settings.reclaimPolicy =
      Mapping.get listed Settings.reclaimPolicy) :
    allowed (.mapping listed) = named names ∧ allowed (.mapping written) = named names ∧
      (∀ default, Check.ofParameters (.mapping written) default =
        Check.ofParameters (.mapping listed) default) ∧
      ((∀ c ∈ s.toList, c = ',' ∨ isBlankIn c) →
        names = [] ∧ allowed (.mapping written) = .ok []) ∧
      ∀ t, (∀ name ∈ itemsOf t, IsItem name) ∧ Writes (itemsOf t) t := by
  have hitems : itemsOf s = names := itemsOf_of_writes hnames hs
  have hlist : allowed (.mapping listed) = named names := allowed_of_items hlisted rfl rfl
  have htext : allowed (.mapping written) = named names := by
    refine allowed_of_items hwritten rfl ?_
    rw [allowedItems_text, hitems]
  refine ⟨hlist, htext, ?_, ?_, writes_itemsOf⟩
  · intro default
    exact ofParameters_of_allowed_eq hpolicy (htext.trans hlist.symm)
  · intro hblank
    have hnil : names = [] := by
      rw [← hitems]
      exact itemsOf_eq_nil_iff.2 hblank
    rw [htext, hnil]
    exact ⟨rfl, rfl⟩

/-- Three names in a list and in a text, one of them twice, with a blank place and an em space. -/
theorem forms_agree_twice :
    let asked : Value × Value := (.text "reclaim-policy", .text "Retain")
    let names : List Text := ["Delete", "Fail", "Delete"]
    let listed : Mapping :=
      [asked, (.text "allowed-reclaim-policies", .list (names.map .text))]
    let written : Mapping :=
      [asked, (.text "allowed-reclaim-policies", .text " Delete ,, Fail,\u2003Delete")]
    Writes names " Delete ,, Fail,\u2003Delete" ∧
      allowed (.mapping listed) = .ok [.delete, .fail, .delete] ∧
      allowed (.mapping written) = .ok [.delete, .fail, .delete] ∧
      Check.ofParameters (.mapping written) (.policy .fail) =
        Check.ofParameters (.mapping listed) (.policy .fail) := by
  intro asked names listed written
  have hitem : ∀ name ∈ names, IsItem name := by
    intro name hname
    have hcases : name = "Delete" ∨ name = "Fail" := by
      simpa [names, or_comm] using hname
    rcases hcases with rfl | rfl
    · exact ⟨by decide, by decide, fun c hc => by cases hc; rfl, fun c hc => by cases hc; rfl⟩
    · exact ⟨by decide, by decide, fun c hc => by cases hc; rfl, fun c hc => by cases hc; rfl⟩
  have hnone : Text.Blank [] := fun c hc => absurd hc List.not_mem_nil
  have hspace : Text.Blank [.scalar ' '] := fun c hc => by
    rw [List.mem_singleton.1 hc]
    rfl
  have hem : Text.Blank [.scalar '\u2003'] := fun c hc => by
    rw [List.mem_singleton.1 hc]
    rfl
  have hwrites : Writes names " Delete ,, Fail,\u2003Delete" :=
    ⟨_, .item hspace hspace (.blank hnone (.item hspace hnone (.item hem hnone .done))),
      by decide +kernel⟩
  have hlisted : Mapping.get listed Settings.allowedReclaimPolicies =
      some (.list (names.map .text)) := by
    simp [listed, asked, Mapping.get_cons, Mapping.text_equal_text,
      Settings.allowedReclaimPolicies]
  have hwritten : Mapping.get written Settings.allowedReclaimPolicies =
      some (.text " Delete ,, Fail,\u2003Delete") := by
    simp [written, asked, Mapping.get_cons, Mapping.text_equal_text,
      Settings.allowedReclaimPolicies]
  have hpolicy : Mapping.get written Settings.reclaimPolicy =
      Mapping.get listed Settings.reclaimPolicy := by
    simp [listed, written, asked, Mapping.get_cons, Mapping.text_equal_text,
      Settings.reclaimPolicy]
  obtain ⟨hlist, htext, hcheck, _, _⟩ := forms_agree hitem hwrites hlisted hwritten hpolicy
  exact ⟨hwrites, hlist, htext, hcheck (.policy .fail)⟩

end ReclaimPolicy

end StorageBroker
