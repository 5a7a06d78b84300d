import MockApi.Path.Read
import MockApi.Proofs.Pruning
import MockApi.Template.Content

/-!
# The shape of content

* `Template.content f t` : the content of a template if the function for its leaves has no effects;
* `Value.Shaped t v` : `v` has the lists, objects and nulls of `t`, and a text for each other leaf;
* `Value.Shaped.reaches` : a path resolves in such a value if it does in the other;
* `Template.content_shaped_fuses` : content has the shape of its template, and content of content is
  content.
-/

namespace MockApi

namespace Value

/-- The value has the lists, objects and nulls of the template, and texts in place of its other
leaves. -/
inductive Shaped : Value → Value → Prop
  | null : Shaped .null .null
  | leaf {t : Value} (s : Text) : t.isContainer = false → t.isNull = false → Shaped t (.text s)
  | list {ts vs : List Value} : List.Forall₂ Shaped ts vs → Shaped (.list ts) (.list vs)
  | object {ms ns : Members Value} : Members.Rel Shaped ms ns → Shaped (.object ms) (.object ns)

end Value

open Value (Shaped)

namespace Path

variable {t v : Value} {segment : Text} {rest : List Text}

theorem reaches_leaf (hv : v.isContainer = false) (segment : Text) (rest : List Text) :
    reaches (segment :: rest) v = .ok false := by
  cases v with
  | list _ => cases hv
  | object _ => cases hv
  | _ => exact ite_self _

theorem rel_getElem? {R : Value → Value → Prop} {ts vs : List Value} (h : List.Forall₂ R ts vs) (i : Nat) :
    Option.Rel R ts[i]? vs[i]? := by
  induction h generalizing i with
  | nil => exact .none
  | cons hhead _ ih =>
    cases i with
    | zero => exact .some hhead
    | succ i => exact ih i

theorem rel_get? {R : Value → Value → Prop} {ms ns : Members Value} (h : Members.Rel R ms ns)
    (name : Text) : Option.Rel R (Members.get? ms name) (Members.get? ns name) := by
  induction h with
  | nil => exact .none
  | cons hhead _ ih =>
    rw [Members.get?_cons, Members.get?_cons]
    split
    · exact .some hhead
    · exact ih

theorem allM_congr {p : Value → Except IntegerFault Bool} {ts vs : List Value}
    (h : List.Forall₂ (fun t v => p v = p t) ts vs) : vs.allM p = ts.allM p := by
  induction h with
  | nil => rfl
  | cons hhead _ ih => rw [List.allM, List.allM, hhead, ih]

/-- **A path resolves in what has the shape of a template if it resolves in the template**, and a segment
that is no index is found in both or in neither. -/
theorem reaches_of_shaped (h : Shaped t v) (segments : List Text) :
    reaches segments v = reaches segments t := by
  induction segments generalizing t v with
  | nil =>
    cases h with
    | leaf s _ hnull => rw [reaches, reaches, hnull]; rfl
    | _ => rfl
  | cons segment rest ih =>
    cases h with
    | null => rfl
    | leaf s hleaf _ => rw [reaches_leaf hleaf, reaches_leaf rfl]
    | @list ts vs hitems =>
      rw [reaches, reaches]
      split
      · exact allM_congr (hitems.imp fun _ _ hitem => ih hitem)
      · cases indexOf? segment with
        | error fault => rfl
        | ok i? =>
          cases i? with
          | none => rfl
          | some i =>
            have hitem := rel_getElem? hitems i
            simp only [bind, Except.bind]
            generalize ts[i]? = t?, vs[i]? = v? at hitem ⊢
            cases hitem with
            | none => rfl
            | some hitem => exact ih hitem
    | @object ms ns hmembers =>
      rw [reaches, reaches]
      split
      · rfl
      · have hmember := rel_get? hmembers segment
        generalize Members.get? ms segment = t?, Members.get? ns segment = v? at hmember ⊢
        cases hmember with
        | none => rfl
        | some hmember => exact ih hmember

end Path

namespace Template

/-- The content of a template, where the function that the leaves are passed through has no effects. -/
def content (f : Text → Text) (t : Value) : Value := Id.run (generate (fun s => pure (f s)) t)

variable {f g : Text → Text}

theorem content_list (items : List Value) : content f (.list items) = .list (items.map (content f)) := by
  have hitems : Id.run (fillItems (fun v => pure (f v.written)) items) = items.map (content f) := by
    induction items with
    | nil => rfl
    | cons v items ih => rw [List.map_cons, ← ih]; rfl
  exact congrArg Value.list hitems

theorem content_object (members : Members Value) :
    content f (.object members) = .object (Members.mapValues (content f) members) := by
  have hmembers : Id.run (fillMembers (fun v => pure (f v.written)) members) =
      Members.mapValues (content f) members := by
    induction members with
    | nil => rfl
    | cons m members ih =>
      rw [Members.mapValues, List.map_cons, ← Members.mapValues, ← ih]; rfl
  exact congrArg Value.object hmembers

/-- Content has the shape of its template. -/
theorem shaped_content (f : Text → Text) (t : Value) : Shaped t (content f t) := by
  induction t using Value.induction with
  | null => exact .null
  | list items ih =>
    rw [content_list]
    exact .list (List.forall₂_map_right_iff.2 (List.forall₂_same.2 ih))
  | object members ih =>
    rw [content_object]
    exact .object (.mapValues_right ih)
  | _ => exact .leaf _ rfl rfl

/-- Content of content is the content that the two functions give one after the other. -/
theorem content_content (f g : Text → Text) (t : Value) : content g (content f t) = content (g ∘ f) t := by
  induction t using Value.induction with
  | null => rfl
  | list items ih =>
    rw [content_list, content_list, content_list, List.map_map]
    exact congrArg Value.list (List.map_congr_left ih)
  | object members ih =>
    rw [content_object, content_object, content_object]
    simp only [Members.mapValues, List.map_map]
    refine congrArg Value.object (List.map_congr_left fun m hm => ?_)
    simp only [Function.comp_apply, ih m hm]
  | _ => rfl

/-- **Generation keeps the shape and fuses.** Content has the lists, objects and nulls of its template and
texts for all other leaves; content of content is the content that the two functions give one after the
other; and a path resolves in content exactly if it does in the template. -/
theorem content_shaped_fuses (t : Value) (f g : Text → Text) :
    Shaped t (content f t) ∧ content g (content f t) = content (g ∘ f) t ∧
      ∀ path : Path, path.resolves (content f t) = path.resolves t := by
  have hshaped := shaped_content f t
  exact ⟨hshaped, content_content f g t, fun path => Path.reaches_of_shaped hshaped path.segments⟩

end Template

end MockApi
