import Mathlib.Logic.Function.Basic
import MockApi.Predicate.Evaluation

/-!
# Evaluation does not depend on which objects data are

Two scopes can have the same values in different objects. As long as what is one object in the first
is one object in the second, there is an injective map of places that leads from the first to the
second; every function of the evaluator commutes with it.

* `Identity.renamed ρ`, `Datum.renamed ρ` : objects that stand elsewhere, and the data made of them;
* `Datum.value_renamed`, `Datum.renamed_id` : the values stay, and so does everything if the places do;
* `Datum.same_renamed`, `Datum.alike_renamed`, `Relation.holds_renamed` : what is compared stays the same
  if the map is injective;
* `Helper.apply_renamed`, `BinaryOp.compute?_renamed`, `UnaryOp.compute?_renamed`,
  `Runtime.finish_renamed` : what is computed is renamed.
-/

namespace MockApi.Predicate

variable {ρ : Place → Place}

/-! ## Objects that stand elsewhere -/

/-- The object at another place, if it stands at one. -/
def Identity.renamed (ρ : Place → Place) : Identity → Identity
  | .own => .own
  | .kept n => .kept n
  | .placed place => .placed (ρ place)

@[simp] theorem Identity.renamed_own : Identity.own.renamed ρ = .own := rfl

@[simp] theorem Identity.renamed_kept (n : Nat) : (Identity.kept n).renamed ρ = .kept n := rfl

@[simp] theorem Identity.renamed_placed (place : Place) :
    (Identity.placed place).renamed ρ = .placed (ρ place) := rfl

theorem Identity.renamed_eq_own_iff (i : Identity) : i.renamed ρ = .own ↔ i = .own := by
  cases i <;> simp

theorem Identity.renamed_inj (hρ : Function.Injective ρ) (i j : Identity) :
    i.renamed ρ = j.renamed ρ ↔ i = j := by
  cases i <;> cases j <;> simp [hρ.eq_iff]

theorem Identity.same_renamed (hρ : Function.Injective ρ) (i j : Identity) :
    (i.renamed ρ).same (j.renamed ρ) = i.same j := by
  rw [Bool.eq_iff_iff]
  simp only [same, Bool.and_eq_true, bne_iff_ne, beq_iff_eq, ne_eq, renamed_eq_own_iff, renamed_inj hρ]

theorem Identity.renamed_id (i : Identity) : i.renamed id = i := by cases i <;> rfl

namespace Datum

mutual

/-- The datum made of objects at other places. -/
@[simp] def renamed (ρ : Place → Place) : Datum → Datum
  | .null => .null
  | .bool b => .bool b
  | .int n identity => .int n (identity.renamed ρ)
  | .float x identity => .float x (identity.renamed ρ)
  | .text s identity => .text s (identity.renamed ρ)
  | .list items identity => .list (renamedItems ρ items) (identity.renamed ρ)
  | .object members identity => .object (renamedMembers ρ members) (identity.renamed ρ)
  | .headers members identity => .headers (renamedMembers ρ members) (identity.renamed ρ)

@[simp] def renamedItems (ρ : Place → Place) : List Datum → List Datum
  | [] => []
  | d :: rest => renamed ρ d :: renamedItems ρ rest

@[simp] def renamedMembers (ρ : Place → Place) : List (Text × Datum) → List (Text × Datum)
  | [] => []
  | (name, d) :: rest => (name, renamed ρ d) :: renamedMembers ρ rest

end

theorem renamedItems_eq_map (ds : List Datum) : renamedItems ρ ds = ds.map (renamed ρ) := by
  induction ds with
  | nil => rfl
  | cons d ds ih => rw [renamedItems, ih, List.map_cons]

@[simp] theorem length_renamedItems (ds : List Datum) : (renamedItems ρ ds).length = ds.length := by
  rw [renamedItems_eq_map, List.length_map]

@[simp] theorem length_renamedMembers (ms : List (Text × Datum)) :
    (renamedMembers ρ ms).length = ms.length := by
  induction ms with
  | nil => rfl
  | cons m ms ih => rw [renamedMembers, List.length_cons, ih, List.length_cons]

@[simp] theorem isEmpty_renamedItems (ds : List Datum) : (renamedItems ρ ds).isEmpty = ds.isEmpty := by
  cases ds <;> rfl

@[simp] theorem isEmpty_renamedMembers (ms : List (Text × Datum)) :
    (renamedMembers ρ ms).isEmpty = ms.isEmpty := by
  cases ms <;> rfl

@[simp] theorem get?_renamedMembers (ms : List (Text × Datum)) (name : Text) :
    Members.get? (renamedMembers ρ ms) name = (Members.get? ms name).map (renamed ρ) := by
  induction ms with
  | nil => rfl
  | cons m ms ih =>
    obtain ⟨key, d⟩ := m
    rw [renamedMembers, Members.get?_cons, Members.get?_cons, ih]
    split <;> rfl

@[simp] theorem has_renamedMembers (ms : List (Text × Datum)) (name : Text) :
    Members.has (renamedMembers ρ ms) name = Members.has ms name := by
  rw [Members.has, Members.has, get?_renamedMembers, Option.isSome_map]

mutual

/-- Nothing changes if every place stays what it is. -/
theorem renamed_id : ∀ d : Datum, d.renamed id = d
  | .null => rfl
  | .bool _ => rfl
  | .int _ identity => by rw [renamed, identity.renamed_id]
  | .float _ identity => by rw [renamed, identity.renamed_id]
  | .text _ identity => by rw [renamed, identity.renamed_id]
  | .list items identity => by rw [renamed, renamedItems_id items, identity.renamed_id]
  | .object members identity => by rw [renamed, renamedMembers_id members, identity.renamed_id]
  | .headers members identity => by rw [renamed, renamedMembers_id members, identity.renamed_id]

theorem renamedItems_id : ∀ ds : List Datum, renamedItems id ds = ds
  | [] => rfl
  | d :: ds => by rw [renamedItems, renamed_id d, renamedItems_id ds]

theorem renamedMembers_id : ∀ ms : List (Text × Datum), renamedMembers id ms = ms
  | [] => rfl
  | (_, d) :: ms => by rw [renamedMembers, renamed_id d, renamedMembers_id ms]

end

mutual

/-- **The values of data stay.** -/
@[simp] theorem value_renamed : ∀ d : Datum, (d.renamed ρ).value = d.value
  | .null => rfl
  | .bool _ => rfl
  | .int _ _ => rfl
  | .float _ _ => rfl
  | .text _ _ => rfl
  | .list items _ => congrArg Value.list (values_renamedItems items)
  | .object members _ => congrArg Value.object (memberValues_renamedMembers members)
  | .headers members _ => congrArg Value.object (memberValues_renamedMembers members)

@[simp] theorem values_renamedItems : ∀ ds : List Datum, values (renamedItems ρ ds) = values ds
  | [] => rfl
  | d :: ds => by rw [renamedItems, values, values, value_renamed d, values_renamedItems ds]

@[simp] theorem memberValues_renamedMembers : ∀ ms : List (Text × Datum),
    memberValues (renamedMembers ρ ms) = memberValues ms
  | [] => rfl
  | (_, d) :: ms => by
    rw [renamedMembers, memberValues, memberValues, value_renamed d, memberValues_renamedMembers ms]

end

@[simp] theorem identity_renamed (d : Datum) : (d.renamed ρ).identity = d.identity.renamed ρ := by
  cases d <;> rfl

theorem renamed_withIdentity (d : Datum) (identity : Identity) :
    (d.withIdentity identity).renamed ρ = (d.renamed ρ).withIdentity (identity.renamed ρ) := by
  cases d <;> rfl

@[simp] theorem kindName_renamed (d : Datum) : (d.renamed ρ).kindName = d.kindName := by cases d <;> rfl

@[simp] theorem quantity?_renamed (d : Datum) : (d.renamed ρ).quantity? = d.quantity? := by
  cases d <;> rfl

@[simp] theorem renamed_ofQuantity (q : Quantity) : (ofQuantity q).renamed ρ = ofQuantity q := by
  cases q <;> rfl

@[simp] theorem isTrue_renamed (d : Datum) : (d.renamed ρ).isTrue = d.isTrue := by
  cases d <;> simp [isTrue]

@[simp] theorem isNull_renamed (d : Datum) : (d.renamed ρ).isNull = d.isNull := by cases d <;> rfl

@[simp] theorem isContainer_renamed (d : Datum) : (d.renamed ρ).isContainer = d.isContainer := by
  cases d <;> rfl

/-! ## Parts -/

theorem renamed_getD_null (d? : Option Datum) :
    (d?.map (renamed ρ)).getD .null = (d?.getD .null).renamed ρ := by
  cases d? <;> rfl

theorem member_renamed (name : Text) (d : Datum) :
    (d.renamed ρ).member name = (d.member name).renamed ρ := by
  cases d <;> simp [member, renamed_getD_null]

theorem item_renamed (n : Int) (ds : List Datum) :
    item n (renamedItems ρ ds) = (item n ds).renamed ρ := by
  unfold item
  rw [length_renamedItems, renamedItems_eq_map]
  dsimp only
  generalize (if n < 0 then n + ↑ds.length else n) = i
  split
  · rfl
  · rw [List.getElem?_map, renamed_getD_null]

theorem lookup_renamed (base key : Datum) :
    (base.renamed ρ).lookup (key.renamed ρ) = (base.lookup key).renamed ρ := by
  cases key with
  | text name identity =>
    rw [renamed, lookup_text, lookup_text]
    exact member_renamed name base
  | int n _ =>
    cases base with
    | list items _ => exact item_renamed n items
    | _ => rfl
  | _ => cases base <;> rfl

theorem itemAt_renamed (way : List Nat) (d : Datum) :
    (d.renamed ρ).itemAt way = (d.itemAt way).map (renamed ρ) := by
  induction way generalizing d with
  | nil => rfl
  | cons i way ih =>
    cases d with
    | list items _ =>
      rw [renamed, itemAt, itemAt, renamedItems_eq_map, List.getElem?_map]
      cases items[i]? with
      | none => rfl
      | some d => exact ih d
    | _ => rfl

theorem child_renamed (segment : Text) (d : Datum) :
    (d.renamed ρ).child segment = renamed ρ <$> d.child segment := by
  cases d with
  | list items _ =>
    simp only [renamed, child, map_bind]
    refine bind_congr fun i? => ?_
    cases i? with
    | none => rfl
    | some i =>
      simp only [map_pure, renamedItems_eq_map, List.getElem?_map, renamed_getD_null]
  | _ => exact congrArg Except.ok (member_renamed segment _)

theorem mapM_renamedItems {f : Datum → Except IntegerFault Datum}
    (hf : ∀ d : Datum, f (d.renamed ρ) = renamed ρ <$> f d) (ds : List Datum) :
    (renamedItems ρ ds).mapM f = renamedItems ρ <$> ds.mapM f := by
  induction ds with
  | nil => rfl
  | cons d ds ih =>
    simp only [renamedItems, List.mapM_cons, hf, ih, map_bind, bind_map_left, map_pure]

theorem filter_renamedItems (ds : List Datum) :
    (renamedItems ρ ds).filter (fun d => !d.isNull) =
      renamedItems ρ (ds.filter fun d => !d.isNull) := by
  simp only [renamedItems_eq_map, List.filter_map, Function.comp_def, isNull_renamed]

/-- **A path leads to the same part**, whichever objects it goes through. -/
theorem follow_renamed (segments : List Text) (d : Datum) :
    (d.renamed ρ).follow segments = renamed ρ <$> d.follow segments := by
  induction segments generalizing d with
  | nil => rfl
  | cons segment rest ih =>
    have hdown : (do
        let found ← (d.renamed ρ).child segment
        if found.isContainer then follow rest found else return found) =
        renamed ρ <$> do
          let found ← d.child segment
          if found.isContainer then follow rest found else return found := by
      rw [child_renamed, map_bind, bind_map_left]
      refine bind_congr fun found => ?_
      rw [isContainer_renamed, ih]
      split <;> rfl
    cases d with
    | list items identity =>
      rw [renamed, follow.eq_def, follow.eq_def]
      dsimp only
      split
      · rw [mapM_renamedItems ih]
        simp only [map_bind, bind_map_left, map_pure, renamed, filter_renamedItems, Identity.renamed]
      · exact hdown
    | _ => exact hdown

/-! ## Text -/

theorem shownHeaders_renamedMembers (ms : List (Text × Datum)) :
    shownHeaders (renamedMembers ρ ms) = shownHeaders ms := by
  rw [shownHeaders, shownHeaders, memberValues_renamedMembers]

mutual

theorem shown_renamed : ∀ d : Datum, (d.renamed ρ).shown = d.shown
  | .list items _ => congrArg shownList (shownItems_renamed items)
  | .headers members _ => shownHeaders_renamedMembers members
  | .object members identity => congrArg Value.shown (value_renamed (.object members identity))
  | .null => rfl
  | .bool _ => rfl
  | .int _ _ => rfl
  | .float _ _ => rfl
  | .text _ _ => rfl

theorem shownItems_renamed : ∀ ds : List Datum, shownItems (renamedItems ρ ds) = shownItems ds
  | [] => rfl
  | d :: ds => by rw [renamedItems, shownItems, shownItems, shown_renamed d, shownItems_renamed ds]

end

theorem plain_renamed (d : Datum) : (d.renamed ρ).plain = d.plain := by
  cases d with
  | text _ _ => rfl
  | _ => exact congrArg Text.ofString (shown_renamed _)

mutual

theorem written_renamed : ∀ d : Datum, (d.renamed ρ).written = d.written
  | .list items _ => congrArg (Text.join ",") (writtenItems_renamed items)
  | .headers members _ => congrArg Text.ofString (shownHeaders_renamedMembers members)
  | .object members identity => congrArg Value.written (value_renamed (.object members identity))
  | .null => rfl
  | .bool _ => rfl
  | .int _ _ => rfl
  | .float _ _ => rfl
  | .text _ _ => rfl

theorem writtenItems_renamed : ∀ ds : List Datum, writtenItems (renamedItems ρ ds) = writtenItems ds
  | [] => rfl
  | d :: ds => by
    rw [renamedItems, writtenItems, writtenItems, written_renamed d, writtenItems_renamed ds]

end

theorem hasText_renamed (d : Datum) : (d.renamed ρ).hasText = d.hasText := by
  rw [hasText, hasText, value_renamed]

/-! ## Comparisons -/

theorem members?_renamed (d : Datum) : (d.renamed ρ).members? = d.members?.map (renamedMembers ρ) := by
  cases d <;> rfl

/-- **What is one object stays one object.** -/
theorem same_renamed (hρ : Function.Injective ρ) (d e : Datum) : (d.renamed ρ).same (e.renamed ρ) = d.same e := by
  have hidentity : (d.renamed ρ).identity.same (e.renamed ρ).identity = d.identity.same e.identity := by
    rw [identity_renamed, identity_renamed, Identity.same_renamed hρ]
  cases d with
  | null => exact isNull_renamed e
  | bool _ =>
    cases e with
    | bool _ => rfl
    | _ => exact hidentity
  | _ => exact hidentity

mutual

/-- **What is equal stays equal.** -/
theorem alike_renamed (hρ : Function.Injective ρ) :
    ∀ d e : Datum, (d.renamed ρ).alike (e.renamed ρ) = d.alike e
  | .null, e => isNull_renamed e
  | .bool _, e => by cases e <;> rfl
  | .int _ _, e => by cases e <;> rfl
  | .float _ _, e => by cases e <;> rfl
  | .text _ _, e => by cases e <;> rfl
  | .list ds _, e => by
    cases e with
    | list es _ => exact alikeItems_renamed hρ ds es
    | _ => rfl
  | .object ms _, e => by
    rw [renamed, alike, alike, members?_renamed, Option.any_map]
    simp only [length_renamedMembers, alikeMembers_renamed hρ ms]
  | .headers ms _, e => by
    rw [renamed, alike, alike, members?_renamed, Option.any_map]
    simp only [length_renamedMembers, alikeMembers_renamed hρ ms]

theorem alikeItems_renamed (hρ : Function.Injective ρ) : ∀ ds es : List Datum,
    alikeItems (renamedItems ρ ds) (renamedItems ρ es) = alikeItems ds es
  | [], [] => rfl
  | [], _ :: _ => rfl
  | _ :: _, [] => rfl
  | d :: ds, e :: es => by
    rw [renamedItems, renamedItems, alikeItems, alikeItems, same_renamed hρ, alike_renamed hρ d e,
      alikeItems_renamed hρ ds es]

theorem alikeMembers_renamed (hρ : Function.Injective ρ) : ∀ ms ns : List (Text × Datum),
    alikeMembers (renamedMembers ρ ms) (renamedMembers ρ ns) = alikeMembers ms ns
  | [], _ => rfl
  | (name, d) :: ms, ns => by
    rw [renamedMembers, alikeMembers, alikeMembers, alikeMembers_renamed hρ ms, get?_renamedMembers,
      Option.any_map]
    simp only [same_renamed hρ, alike_renamed hρ d]

end

mutual

/-- **The order stays the same.** -/
theorem order_renamed (hρ : Function.Injective ρ) (r : OrderRelation) :
    ∀ d e : Datum, Datum.order r (d.renamed ρ) (e.renamed ρ) = Datum.order r d e
  | .list ds _, e => by
    cases e with
    | list es _ => exact orderItems_renamed hρ r ds es
    | _ => rfl
  | .text _ _, e => by cases e <;> rfl
  | .null, e => by cases e <;> rfl
  | .bool _, e => by cases e <;> rfl
  | .int _ _, e => by cases e <;> rfl
  | .float _ _, e => by cases e <;> rfl
  | .object _ _, e => by cases e <;> rfl
  | .headers _ _, e => by cases e <;> rfl

theorem orderItems_renamed (hρ : Function.Injective ρ) (r : OrderRelation) : ∀ ds es : List Datum,
    Datum.orderItems r (renamedItems ρ ds) (renamedItems ρ es) = Datum.orderItems r ds es
  | [], [] => rfl
  | [], _ :: _ => rfl
  | _ :: _, [] => rfl
  | d :: ds, e :: es => by
    rw [renamedItems, renamedItems, Datum.orderItems, Datum.orderItems, same_renamed hρ,
      alike_renamed hρ, order_renamed hρ r d e, orderItems_renamed hρ r ds es]

end

/-- What is a part of a datum stays one. -/
theorem contains_renamed (hρ : Function.Injective ρ) (whole part : Datum) :
    (whole.renamed ρ).contains (part.renamed ρ) = whole.contains part := by
  cases whole with
  | list items _ =>
    simp only [renamed, contains, renamedItems_eq_map, List.any_map, Function.comp_def,
      same_renamed hρ, alike_renamed hρ]
  | object members _ =>
    cases part with
    | text name _ => simp only [renamed, contains, has_renamedMembers]
    | _ => rfl
  | headers members _ =>
    cases part with
    | text name _ => simp only [renamed, contains, has_renamedMembers]
    | _ => rfl
  | text _ _ => cases part <;> rfl
  | _ => rfl

end Datum

open Datum

/-- **Every comparison holds as before.** -/
theorem Relation.holds_renamed (hρ : Function.Injective ρ) (r : Relation) (a b : Datum) :
    r.holds (a.renamed ρ) (b.renamed ρ) = r.holds a b := by
  cases r <;> simp only [holds, alike_renamed hρ, order_renamed hρ, contains_renamed hρ, same_renamed hρ]

/-! ## Operators and functions -/

theorem renamed_ofResult (r : Except Quantity.Failure Quantity) :
    renamed ρ <$> ofResult r = ofResult r := by
  cases r with
  | ok q => exact congrArg Except.ok (renamed_ofQuantity q)
  | error _ => rfl

theorem onNumbers_renamed (missing : Fault) (f : Quantity → Quantity → Except Quantity.Failure Quantity)
    (a b : Datum) :
    onNumbers missing f (a.renamed ρ) (b.renamed ρ) = renamed ρ <$> onNumbers missing f a b := by
  rw [onNumbers, onNumbers, quantity?_renamed, quantity?_renamed]
  split
  · rw [renamed_ofResult]
  · rfl

theorem plus_renamed (a b : Datum) : plus (a.renamed ρ) (b.renamed ρ) = renamed ρ <$> plus a b := by
  have hnumbers : onNumbers .kind Quantity.add (a.renamed ρ) (b.renamed ρ) =
      renamed ρ <$> onNumbers .kind Quantity.add a b := onNumbers_renamed _ _ a b
  cases a with
  | text _ _ =>
    cases b with
    | text _ _ => rfl
    | _ => exact hnumbers
  | list ds _ =>
    cases b with
    | list es _ =>
      simp only [renamed, plus, renamedItems_eq_map, ← List.map_append]
      rw [← renamedItems_eq_map]
      rfl
    | _ => exact hnumbers
  | _ => cases b <;> exact hnumbers

theorem BinaryOp.compute?_renamed (op : BinaryOp) (a b : Datum) :
    op.compute? (a.renamed ρ) (b.renamed ρ) = (op.compute? a b).map (renamed ρ <$> ·) := by
  cases op <;> simp only [compute?, plus_renamed, onNumbers_renamed, Option.map_some, Option.map_none]

theorem negated_renamed (d : Datum) : negated (d.renamed ρ) = renamed ρ <$> negated d := by
  rw [negated, negated, quantity?_renamed]
  split
  · exact congrArg Except.ok (renamed_ofQuantity _).symm
  · rfl

theorem unchanged_renamed (d : Datum) : unchanged (d.renamed ρ) = renamed ρ <$> unchanged d := by
  cases d <;> rfl

theorem UnaryOp.compute?_renamed (op : UnaryOp) (d : Datum) :
    op.compute? (d.renamed ρ) = (op.compute? d).map (renamed ρ <$> ·) := by
  cases op with
  | not => simp only [compute?, isTrue_renamed, Option.map_some]; rfl
  | neg => exact congrArg some (negated_renamed d)
  | pos => exact congrArg some (unchanged_renamed d)
  | foreign _ => rfl

theorem sizeOf_renamed (d : Datum) : sizeOf (d.renamed ρ) = renamed ρ <$> sizeOf d := by
  cases d with
  | list items _ => simp only [renamed, sizeOf, length_renamedItems]; rfl
  | object members _ => simp only [renamed, sizeOf, length_renamedMembers]; rfl
  | headers members _ => simp only [renamed, sizeOf, length_renamedMembers]; rfl
  | _ => rfl

theorem onText_renamed (function : String) (f : Text → Text) (d : Datum) :
    onText function f (d.renamed ρ) = renamed ρ <$> onText function f d := by
  cases d <;> rfl

theorem numberOf_renamed (d : Datum) : numberOf (d.renamed ρ) = renamed ρ <$> numberOf d := by
  cases d with
  | text s _ =>
    rw [renamed, numberOf, numberOf]
    cases readInteger s with
    | ok n => rfl
    | error _ => cases readDouble? s <;> rfl
  | _ => rfl

theorem textOf_renamed (d : Datum) (text : Text) : textOf (d.renamed ρ) text = textOf d text := by
  rw [textOf, textOf, hasText_renamed]

theorem stringOf_renamed (d : Datum) : stringOf (d.renamed ρ) = renamed ρ <$> stringOf d := by
  have hmade : (textOf (d.renamed ρ) (d.renamed ρ).written).map (fun text => Datum.text text .own) =
      renamed ρ <$> (textOf d d.written).map fun text => Datum.text text .own := by
    rw [textOf_renamed, written_renamed]
    cases textOf d d.written <;> rfl
  cases d with
  | text _ _ => rfl
  | _ => exact hmade

theorem testText_renamed (test : Text → Text → Bool) (d piece : Datum) :
    testText test (d.renamed ρ) (piece.renamed ρ) = renamed ρ <$> testText test d piece := by
  cases d with
  | text s _ =>
    simp only [renamed, testText, textOf_renamed, plain_renamed, map_bind]
    rfl
  | _ => rfl

theorem textOfBase64_renamed (d : Datum) :
    textOfBase64 (d.renamed ρ) = renamed ρ <$> textOfBase64 d := by
  rw [textOfBase64, textOfBase64, textOf_renamed, plain_renamed, map_bind]
  refine bind_congr fun text => ?_
  split
  · cases Text.Base64.decode text <;> rfl
  · rfl

/-- **Every function gives what it gave.** -/
theorem Helper.apply_renamed (helper : Helper) (ds : List Datum) :
    helper.apply (renamedItems ρ ds) = renamed ρ <$> helper.apply ds := by
  match ds with
  | [] => cases helper <;> rfl
  | [d] =>
    cases helper with
    | size => exact sizeOf_renamed d
    | lower => exact onText_renamed "lower" Text.lower d
    | upper => exact onText_renamed "upper" Text.upper d
    | trim => exact onText_renamed "trim" Text.strip d
    | number => exact numberOf_renamed d
    | string => exact stringOf_renamed d
    | present =>
      simp only [renamedItems, apply, isNull_renamed]
      rfl
    | decodeBase64 => exact textOfBase64_renamed d
    | _ => rfl
  | [d, piece] =>
    cases helper with
    | startsWith => exact testText_renamed beginsWith d piece
    | endsWith => exact testText_renamed _ d piece
    | _ => rfl
  | _ :: _ :: _ :: _ => cases helper <;> rfl

/-- **A result is the object that it was**, be it a new one, one that is kept, or a part of an operand. -/
theorem Runtime.finish_renamed (runtime : Runtime) (op : Operation) (operands : List Datum)
    (result : Datum) : runtime.finish op (renamedItems ρ operands) (result.renamed ρ) =
      (runtime.finish op operands result).renamed ρ := by
  unfold finish
  simp only [identity_renamed, Identity.renamed_eq_own_iff, values_renamedItems, value_renamed]
  split
  · split
    · rfl
    · next n _ => exact (renamed_withIdentity result (.kept n)).symm
    · next i way _ =>
      have hpart : ((renamedItems ρ operands)[i]?).bind (itemAt way) =
          ((operands[i]?).bind (itemAt way)).map (renamed ρ) := by
        rw [renamedItems_eq_map, List.getElem?_map]
        cases operands[i]? with
        | none => rfl
        | some d => exact itemAt_renamed way d
      rw [renamed_withIdentity, hpart]
      cases (operands[i]?).bind (itemAt way) <;> simp
  · rfl

end MockApi.Predicate
