import MockApi.Proofs.Finishing

/-!
# Paths that resolve

What is known of a template when a document is loaded holds of everything that is generated from it.

* `Path.Leads.copies` : a path that leads on in a list leads on in copies of the list;
* `write_cast_of_resolves` : a cast at a path that resolves is written, without and with copies.
-/

namespace MockApi

open MockApi.Path (Leads changeAt wildcard write_of_leads)
open Repeat (copies)
open Template (Generated Responds generate)

variable {ε σ : Type} {f : Text → ExceptT ε (StateM σ) Text} {path : Path} {template data : Value}
  {items : List Value}

/-- A path that leads on in a list does so in copies of it; without a copy only a wildcard does. -/
theorem Path.Leads.copies (h : Leads path.segments (.list items)) {count : Nat}
    (hcount : 0 < count ∨ path.segments.head? = some wildcard) :
    Leads path.segments (.list (copies count items)) := by
  cases hsegments : path.segments with
  | nil => exact absurd hsegments path.ne_nil
  | cons segment rest =>
    rw [hsegments] at h hcount
    cases count with
    | zero =>
      have hwild : segment = wildcard := by simpa using hcount
      subst hwild
      exact leads_wildcard.2 nofun
    | succ count =>
      rw [copies_succ]
      refine h.append fun hwild v hv => ?_
      subst hwild
      exact leads_wildcard.1 h v (mem_of_mem_copies hv)

/-! ## Casts of what was generated -/

/-- **A cast at a path that resolves in the template is written**: into whatever is generated from the
template, and into copies of it if that is a list. Where there is no copy at all, the path has to start
with a wildcard. -/
theorem write_cast_of_resolves (h : path.resolves template = .ok true)
    (hf : ∀ text, Responds f text) (kind : CastKind) (s : σ) :
    ∃ data s', (generate f template).run s = (.ok data, s') ∧
      path.write (always kind.apply) data = ⟨changeAt kind.apply path.segments data, none⟩ ∧
      ∀ templates, template = .list templates →
        ∃ items, data = .list items ∧ items.length = templates.length ∧
          ∀ count, (0 < count ∨ path.segments.head? = some wildcard) →
            path.write (always kind.apply) (.list (copies count items)) =
              ⟨changeAt kind.apply path.segments (.list (copies count items)), none⟩ := by
  obtain ⟨data, s', hgives⟩ := Template.exists_fill (t := template) (fun leaf _ => hf leaf.written) s
  have hdata := Template.generated_of_gives hgives
  have hleads := leads_of_resolves h hdata
  refine ⟨data, s', hgives, write_of_leads hleads _, ?_⟩
  rintro templates rfl
  cases hdata with
  | leaf hcontainer _ _ => cases hcontainer
  | @list _ items hitems =>
    refine ⟨items, rfl, hitems.length_eq.symm, fun count hcount => ?_⟩
    exact write_of_leads (hleads.copies hcount) _

/-- A filler that counts its calls, a path with an index before a wildcard, and three copies. -/
theorem write_cast_of_resolves_index :
    let template : List Value := [.object [("a", .list [.object [("b", .int 1)], .object [("b", .text "x")]])]]
    let path : Path := ⟨["0", "a", "*", "b"], by decide, by decide⟩
    let f : Text → ExceptT Empty (StateM Nat) Text := fun text => do
      modify (· + 1)
      return text
    path.resolves (.list template) = .ok true ∧ (∀ text, Responds f text) ∧
      ∃ data s', (generate f (.list template)).run 0 = (.ok data, s') ∧
        ∃ items, data = .list items ∧ items.length = 1 ∧
          path.write (always CastKind.number.apply) (.list (copies 3 items)) =
            ⟨changeAt CastKind.number.apply path.segments (.list (copies 3 items)), none⟩ := by
  intro template path f
  have hresolves : path.resolves (.list template) = .ok true := rfl
  have hf : ∀ text, Responds f text := fun text s => ⟨text, s + 1, rfl⟩
  obtain ⟨data, s', hgives, -, hcopies⟩ := write_cast_of_resolves hresolves hf .number 0
  obtain ⟨items, hitems, hlength, hwrite⟩ := hcopies template rfl
  exact ⟨hresolves, hf, data, s', hgives, items, hitems, hlength, hwrite 3 (.inl (by decide))⟩

end MockApi
