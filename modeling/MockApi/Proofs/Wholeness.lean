import Mathlib.Data.List.TakeWhile
import MockApi.Path.Read
import MockApi.Proofs.Folding
import MockApi.Template.Render
import MockApi.Text.Blank
import MockApi.Text.Utf8

/-!
# Whole texts

* `Text.Whole` : a text in which no half of a pair stands alone; it is the text of a string
  (`exists_string?`);
* `Value.Whole` : a value all texts of which are whole;
* `Value.Whole.written` : it stands as a whole text inside text;
* `Value.Inherited P` : a property that the parts of a value have with it; `Path.follow_inherited` : what
  a path leads to has it too;
* `Value.isWritable_list`, `Value.isWritable_object` : values whose integers can be written.
-/

namespace MockApi

namespace Text

/-! ## Texts -/

/-- No half of a pair stands alone in the text. -/
def Whole (text : Text) : Prop := ∀ c ∈ text, c.isHalf = false

instance (text : Text) : Decidable (Whole text) :=
  inferInstanceAs (Decidable (∀ c ∈ text, c.isHalf = false))

theorem whole_nil : Whole [] := nofun

theorem whole_ofChars (cs : List Char) : Whole (ofChars cs) := by
  intro c hc
  obtain ⟨d, -, rfl⟩ := List.mem_map.1 hc
  exact CodePoint.isHalf_ofChar d

theorem whole_ofString (s : String) : Whole (ofString s) := whole_ofChars s.toList

theorem Whole.append {s t : Text} (hs : Whole s) (ht : Whole t) : Whole (s ++ t) := by
  intro c hc
  obtain hc | hc := List.mem_append.1 hc
  · exact hs c hc
  · exact ht c hc

theorem whole_flatMap {α : Type} {f : α → Text} {as : List α} (h : ∀ a ∈ as, Whole (f a)) :
    Whole (as.flatMap f) := by
  intro c hc
  obtain ⟨a, ha, hc⟩ := List.mem_flatMap.1 hc
  exact h a ha c hc

theorem whole_join {separator : Text} (hseparator : Whole separator) {texts : List Text}
    (h : ∀ t ∈ texts, Whole t) : Whole (join separator texts) := by
  unfold join List.intercalate
  induction texts with
  | nil => exact whole_nil
  | cons t texts ih =>
    have ht := h t List.mem_cons_self
    have hrest := ih fun u hu => h u (List.mem_cons_of_mem _ hu)
    cases texts with
    | nil => simpa using ht
    | cons u texts =>
      rw [List.intersperse_cons_cons, List.flatten_cons, List.flatten_cons]
      exact ht.append (hseparator.append hrest)

/-- A whole text is the text of a string. -/
theorem exists_string? {text : Text} (h : Whole text) : ∃ s, string? text = some s := by
  have hchars : ∃ cs, text.mapM CodePoint.char? = some cs := by
    induction text with
    | nil => exact ⟨[], rfl⟩
    | cons c text ih =>
      obtain ⟨cs, hcs⟩ := ih fun c hc => h c (List.mem_cons_of_mem _ hc)
      have hc : c.char? = some (Char.ofNat c.toNat) := by
        rw [CodePoint.char?, h c List.mem_cons_self]
        rfl
      exact ⟨_, by rw [List.mapM_cons, hc, hcs]; rfl⟩
  obtain ⟨cs, hcs⟩ := hchars
  exact ⟨String.ofList cs, by rw [string?, hcs]; rfl⟩

theorem whole_of_string? {text : Text} {s : String} (h : string? text = some s) : Whole text := by
  obtain ⟨cs, hcs, -⟩ := Option.map_eq_some_iff.1 h
  clear h
  induction text generalizing cs with
  | nil => exact whole_nil
  | cons c text ih =>
    rw [List.mapM_cons] at hcs
    obtain ⟨d, hd, hrest⟩ := Option.bind_eq_some_iff.1 hcs
    obtain ⟨ds, hds, -⟩ := Option.bind_eq_some_iff.1 hrest
    intro e he
    obtain rfl | he := List.mem_cons.1 he
    · rw [CodePoint.char?] at hd
      split at hd
      · cases hd
      · next hhalf => exact Bool.eq_false_iff.2 hhalf
    · exact ih ds hds e he

/-- What has a string is the text of that string. -/
theorem ofString_of_string? {text : Text} {s : String} (h : string? text = some s) :
    ofString s = text := by
  obtain ⟨cs, hcs, rfl⟩ := Option.map_eq_some_iff.1 h
  clear h
  rw [ofString, String.toList_ofList]
  induction text generalizing cs with
  | nil =>
    cases hcs
    rfl
  | cons c text ih =>
    rw [List.mapM_cons] at hcs
    obtain ⟨d, hd, hrest⟩ := Option.bind_eq_some_iff.1 hcs
    obtain ⟨ds, hds, hcons⟩ := Option.bind_eq_some_iff.1 hrest
    cases hcons
    rw [CodePoint.eq_ofChar_of_char? hd, ← ih ds hds]
    rfl

/-- A whole text loses nothing as a string. -/
theorem ofString_lossy {text : Text} (h : Whole text) : ofString (lossy text) = text := by
  obtain ⟨s, hs⟩ := exists_string? h
  rw [← ofString_of_string? hs, lossy_ofString]

/-! ## Halves and blanks -/

theorem whole_of_halves? {text : Text} (h : halves? text = none) : Whole text := by
  induction text with
  | nil => exact whole_nil
  | cons c text ih =>
    cases hc : c.isHalf with
    | true => simp [halves?, hc] at h
    | false =>
      have hrest : halves? text = none := by
        simpa [halves?, hc] using h
      intro d hd
      obtain rfl | hd := List.mem_cons.1 hd
      · exact hc
      · exact ih hrest d hd

theorem isHalf_of_isBlank {c : CodePoint} (h : isBlank c = true) : c.isHalf = false := by
  have hbelow : ∀ range ∈ blankRanges, range.2 < 0xD800 := by decide
  obtain ⟨range, hmem, -, hlast⟩ := exists_of_inRanges h
  have hsmall := hbelow range hmem
  have hlow : ¬ 0xD800 ≤ c.toNat := by omega
  simp [CodePoint.isHalf, hlow]

theorem mem_dropWhile_or {p : CodePoint → Bool} {text : Text} {c : CodePoint} (h : c ∈ text) :
    c ∈ text.dropWhile p ∨ p c = true := by
  rw [← List.takeWhile_append_dropWhile (p := p) (l := text), List.mem_append] at h
  obtain h | h := h
  · exact .inr (List.mem_takeWhile_imp h)
  · exact .inl h

theorem mem_strip_or_isBlank {text : Text} {c : CodePoint} (h : c ∈ text) :
    c ∈ strip text ∨ isBlank c = true := by
  obtain h | h := mem_dropWhile_or (p := isBlank) h
  · obtain h | h := mem_dropWhile_or (p := isBlank) (List.mem_reverse.2 h)
    · exact .inl (List.mem_reverse.2 h)
    · exact .inr h
  · exact .inr h

/-- Blanks at the ends hold no halves. -/
theorem whole_of_strip {text : Text} (h : Whole (strip text)) : Whole text := by
  intro c hc
  obtain hc | hblank := mem_strip_or_isBlank hc
  · exact h c hc
  · exact isHalf_of_isBlank hblank

/-! ## Lower case -/

theorem lowerRuns_avoid_halves :
    (lowerRuns.all fun run => Nat.blt (run.last + run.shift).toNat 0xD800 ||
      Nat.ble 0xE000 (run.first + run.shift).toNat) = true := by
  decide +kernel

theorem whole_lowerCode {c : CodePoint} (h : c.isHalf = false) : Whole (lowerCode c) := by
  intro d hd
  obtain ⟨rfl, -⟩ | ⟨run, hmem, hcovers, rfl⟩ | rfl | rfl := mem_lowerCode hd
  · exact h
  · have havoid := List.all_eq_true.1 lowerRuns_avoid_halves run hmem
    have himage := toNat_image hmem hcovers
    obtain ⟨hfirst, hlast, -⟩ := hcovers
    simp only [Bool.or_eq_true, Nat.blt_eq, Nat.ble_eq] at havoid
    rw [Bool.eq_false_iff]
    intro hhalf
    rw [CodePoint.isHalf, himage, Bool.and_eq_true, decide_eq_true_eq, decide_eq_true_eq] at hhalf
    omega
  · decide
  · decide

theorem whole_lowerFrom {before text : Text} (h : Whole text) : Whole (lowerFrom before text) := by
  induction text generalizing before with
  | nil => exact whole_nil
  | cons c text ih =>
    rw [lowerFrom]
    refine Whole.append ?_ (ih fun d hd => h d (List.mem_cons_of_mem _ hd))
    split_ifs
    · exact whole_ofChars ['ς']
    · exact whole_ofChars ['σ']
    · exact whole_lowerCode (h c List.mem_cons_self)

theorem Whole.lower {text : Text} (h : Whole text) : Whole (lower text) := whole_lowerFrom h

end Text

namespace Json

open Text (Whole whole_ofString whole_flatMap whole_join)

theorem whole_escape {c : CodePoint} (h : c.isHalf = false) : Whole (escape false c) := by
  have hself : Whole [c] := by
    intro d hd
    rwa [List.mem_singleton.1 hd]
  unfold escape
  split_ifs
  · exact (Text.whole_ofChars ['\\']).append hself
  · exact whole_ofString _
  · exact whole_ofString _
  · exact whole_ofString _
  · exact whole_ofString _
  · exact whole_ofString _
  · exact (whole_ofString _).append (Text.whole_ofChars _)
  · exact hself
  · next hnot => exact absurd rfl hnot

theorem whole_quote {text : Text} (h : Whole text) : Whole (quote false text) :=
  ((whole_ofString _).append (whole_flatMap fun c hc => whole_escape (h c hc))).append
    (whole_ofString _)

theorem whole_bracket {texts : List Text} (h : ∀ t ∈ texts, Whole t) : Whole (bracket texts) :=
  ((whole_ofString _).append (whole_join (whole_ofString _) h)).append (whole_ofString _)

theorem whole_brace {texts : List Text} (h : ∀ t ∈ texts, Whole t) : Whole (brace texts) :=
  ((whole_ofString _).append (whole_join (whole_ofString _) h)).append (whole_ofString _)

end Json

/-! ## Values -/

/-- What all members of two objects have, those of one merged into the other have. -/
theorem Members.forall_mem_merge {P : Text × Value → Prop} {base newer : Members Value}
    (hbase : ∀ m ∈ base, P m) (hnewer : ∀ m ∈ newer, P m) : ∀ m ∈ Members.merge base newer, P m := by
  induction newer generalizing base with
  | nil => exact hbase
  | cons m newer ih =>
    refine ih (fun n hn => ?_) fun n hn => hnewer n (List.mem_cons_of_mem _ hn)
    obtain rfl | hn := Members.mem_put hn
    · exact hnewer m List.mem_cons_self
    · exact hbase n hn

/-- All texts of the value are whole, the names of members among them. -/
inductive Value.Whole : Value → Prop
  | null : Whole .null
  | bool (b : Bool) : Whole (.bool b)
  | int (n : Int) : Whole (.int n)
  | float (x : Double) : Whole (.float x)
  | text {s : Text} : s.Whole → Whole (.text s)
  | list {items : List Value} : (∀ v ∈ items, Whole v) → Whole (.list items)
  | object {members : Members Value} : (∀ m ∈ members, Text.Whole m.1) →
    (∀ m ∈ members, Whole m.2) → Whole (.object members)

namespace Value

open Text (whole_nil whole_ofString whole_join)

theorem compactItems_eq_map (items : List Value) : compactItems items = items.map compact := by
  induction items with
  | nil => rfl
  | cons v items ih => simp [compactItems, ih]

theorem compactMembers_eq_map (members : Members Value) :
    compactMembers members =
      members.map fun m => Json.quote false m.1 ++ (":" : Text) ++ compact m.2 := by
  induction members with
  | nil => rfl
  | cons m members ih => simp [compactMembers, ih]

namespace Whole

theorem compact {v : Value} (h : Whole v) : v.compact.Whole := by
  induction h with
  | null => exact whole_ofString _
  | bool b =>
    rw [Value.compact]
    split <;> exact whole_ofString _
  | int n => exact whole_ofString _
  | float x => exact whole_ofString _
  | text hs => exact Json.whole_quote hs
  | list hitems ih =>
    rw [Value.compact, compactItems_eq_map]
    refine Json.whole_bracket fun t ht => ?_
    obtain ⟨v, hv, rfl⟩ := List.mem_map.1 ht
    exact ih v hv
  | object hnames hmembers ih =>
    rw [Value.compact, compactMembers_eq_map]
    refine Json.whole_brace fun t ht => ?_
    obtain ⟨m, hm, rfl⟩ := List.mem_map.1 ht
    exact ((Json.whole_quote (hnames m hm)).append (whole_ofString _)).append (ih m hm)

/-- A whole value stands as a whole text inside text. -/
theorem written {v : Value} (h : Whole v) : v.written.Whole := by
  induction h with
  | null => exact whole_nil
  | bool b =>
    rw [Value.written]
    split <;> exact whole_ofString _
  | int n => exact whole_ofString _
  | float x => exact whole_ofString _
  | text hs => exact hs
  | list hitems ih =>
    rw [Value.written, writtenItems_eq_map]
    refine whole_join (whole_ofString _) fun t ht => ?_
    obtain ⟨v, hv, rfl⟩ := List.mem_map.1 ht
    exact ih v hv
  | object hnames hmembers _ => exact compact (.object hnames hmembers)

theorem merge {base newer : Members Value} (hbase : Whole (.object base))
    (hnewer : Whole (.object newer)) : Whole (.object (Members.merge base newer)) := by
  cases hbase with
  | object hnames hmembers =>
    cases hnewer with
    | object hnames' hmembers' =>
      have hmerge := Members.forall_mem_merge (P := fun m => m.1.Whole ∧ Whole m.2)
        (fun m hm => ⟨hnames m hm, hmembers m hm⟩) (fun m hm => ⟨hnames' m hm, hmembers' m hm⟩)
      exact .object (fun m hm => (hmerge m hm).1) (fun m hm => (hmerge m hm).2)

end Whole

end Value

/-! ## Integers that can be written -/

namespace Value

theorem areWritable_iff (items : List Value) :
    areWritable items = true ↔ ∀ v ∈ items, v.isWritable = true := by
  induction items with
  | nil => simp [areWritable]
  | cons v items ih => simp [areWritable, ih]

theorem membersAreWritable_iff (members : Members Value) :
    membersAreWritable members = true ↔ ∀ m ∈ members, m.2.isWritable = true := by
  induction members with
  | nil => simp [membersAreWritable]
  | cons m members ih => simp [membersAreWritable, ih]

theorem isWritable_list (items : List Value) :
    (Value.list items).isWritable = true ↔ ∀ v ∈ items, v.isWritable = true :=
  areWritable_iff items

theorem isWritable_object (members : Members Value) :
    (Value.object members).isWritable = true ↔ ∀ m ∈ members, m.2.isWritable = true :=
  membersAreWritable_iff members

theorem isWritable_merge {base newer : Members Value} (hbase : (Value.object base).isWritable = true)
    (hnewer : (Value.object newer).isWritable = true) :
    (Value.object (Members.merge base newer)).isWritable = true := by
  rw [isWritable_object] at *
  exact Members.forall_mem_merge hbase hnewer

end Value

/-! ## Looking up in values -/

/-- A property that null has, and a list exactly if all items have it; the members of an object that has
it have it too. -/
structure Value.Inherited (P : Value → Prop) : Prop where
  null : P .null
  list_iff : ∀ items, P (.list items) ↔ ∀ v ∈ items, P v
  members : ∀ members : Members Value, P (.object members) → ∀ m ∈ members, P m.2

theorem Value.inherited_whole : Inherited Whole where
  null := .null
  list_iff _ := ⟨fun | .list hitems => hitems, .list⟩
  members | _, .object _ hmembers => hmembers

theorem Value.inherited_isWritable : Inherited fun v => v.isWritable = true where
  null := rfl
  list_iff := isWritable_list
  members members h := (isWritable_object members).1 h

namespace Path

variable {P : Value → Prop} {v found : Value}

theorem child_inherited (hP : Value.Inherited P) {segment : Text} (hv : P v)
    (h : child segment v = .ok found) : P found := by
  cases v with
  | list items =>
    simp only [child] at h
    cases hindex : indexOf? segment with
    | error fault =>
      rw [hindex] at h
      cases h
    | ok i? =>
      rw [hindex] at h
      cases i? with
      | none =>
        cases h
        exact hP.null
      | some i =>
        obtain rfl := Except.ok.inj h
        cases hi : items[i]? with
        | none => exact hP.null
        | some v => exact (hP.list_iff items).1 hv v (List.mem_of_getElem? hi)
  | object members =>
    obtain rfl := Except.ok.inj h
    cases hget : Members.get? members segment with
    | none => exact hP.null
    | some v => exact hP.members members hv (segment, v) (Members.mem_of_get? hget)
  | _ =>
    cases h
    exact hP.null

theorem forall_mem_of_mapM {f : Value → Except IntegerFault Value} {items found : List Value}
    (hf : ∀ v ∈ items, ∀ w, f v = .ok w → P w) (h : items.mapM f = .ok found) : ∀ w ∈ found, P w := by
  induction items generalizing found with
  | nil =>
    cases h
    exact nofun
  | cons v items ih =>
    rw [List.mapM_cons] at h
    cases hv : f v with
    | error fault =>
      rw [hv] at h
      cases h
    | ok w =>
      rw [hv] at h
      cases hrest : items.mapM f with
      | error fault =>
        rw [hrest] at h
        cases h
      | ok ws =>
        rw [hrest] at h
        cases h
        intro u hu
        obtain rfl | hu := List.mem_cons.1 hu
        · exact hf v List.mem_cons_self u hv
        · exact ih (fun v hv => hf v (List.mem_cons_of_mem _ hv)) hrest u hu

/-- **What a path leads to has the inherited properties of the value.** -/
theorem follow_inherited (hP : Value.Inherited P) {keepBlank : Bool} {segments : List Text} (hv : P v)
    (h : follow keepBlank segments v = .ok found) : P found := by
  induction segments generalizing v found with
  | nil =>
    cases h
    exact hv
  | cons segment rest ih =>
    by_cases hwild : ∀ items, v = .list items → segment ≠ wildcard
    · rw [follow_child hwild] at h
      cases hchild : child segment v with
      | error fault =>
        rw [hchild] at h
        cases h
      | ok below =>
        rw [hchild] at h
        have hbelow := child_inherited hP hv hchild
        simp only [Except.bind] at h
        split_ifs at h
        · cases h
          exact hP.null
        · exact ih hbelow h
        · cases h
          exact hbelow
    · push Not at hwild
      obtain ⟨items, rfl, rfl⟩ := hwild
      rw [follow_wildcard] at h
      cases hfound : items.mapM (follow keepBlank rest) with
      | error fault =>
        rw [hfound] at h
        cases h
      | ok found =>
        rw [hfound] at h
        cases h
        refine (hP.list_iff _).2 fun w hw => ?_
        exact forall_mem_of_mapM (fun u hu w => ih ((hP.list_iff items).1 hv u hu)) hfound w
          (List.mem_filter.1 hw).1

end Path

end MockApi
