import MockApi.Text.CodePoint

/-!
# Members of an object

Names with values, in the order in which the names were first written.

* `Members.get?` : the value of a name;
* `Members.put` : a value written to a name, in the place the name already has or at the end;
* `Members.merge`, `Members.ofPairs` : many values written one after the other;
* `Members.keys` : the names in order.
-/

namespace MockApi

/-- Names with values, in order. -/
abbrev Members (α : Type) := List (Text × α)

namespace Members

variable {α β : Type}

def get? : Members α → Text → Option α
  | [], _ => none
  | (key, value) :: rest, name => if key = name then some value else get? rest name

def keys (members : Members α) : List Text := members.map Prod.fst

def has (members : Members α) (name : Text) : Bool := (get? members name).isSome

/-- Writes a value to a name, in the place the name already has or else at the end. -/
def put : Members α → Text → α → Members α
  | [], name, value => [(name, value)]
  | (key, old) :: rest, name, value =>
    if key = name then (key, value) :: rest else (key, old) :: put rest name value

/-- The members of `base` with those of `newer` written on top of them. -/
def merge (base newer : Members α) : Members α :=
  newer.foldl (fun members (key, value) => put members key value) base

/-- The members that pairs give when they are written one after the other. -/
def ofPairs (pairs : List (Text × α)) : Members α := merge [] pairs

def mapValues (f : α → β) (members : Members α) : Members β :=
  members.map fun (key, value) => (key, f value)

/-! ## Reading what was written -/

@[simp] theorem get?_nil (name : Text) : get? ([] : Members α) name = none := rfl

theorem get?_cons (key name : Text) (value : α) (rest : Members α) :
    get? ((key, value) :: rest) name = if key = name then some value else get? rest name := rfl

theorem get?_put (members : Members α) (name other : Text) (value : α) :
    get? (put members name value) other = if name = other then some value else get? members other := by
  induction members with
  | nil => simp [put, get?]
  | cons member rest ih =>
    obtain ⟨key, old⟩ := member
    by_cases hkey : key = name
    · subst hkey
      by_cases hother : key = other <;> simp [put, get?, hother]
    · by_cases hother : key = other
      · subst hother
        simp [put, get?, hkey, Ne.symm hkey]
      · simp [put, get?, hkey, hother, ih]

@[simp] theorem get?_put_self (members : Members α) (name : Text) (value : α) :
    get? (put members name value) name = some value := by simp [get?_put]

theorem mem_put {members : Members α} {name : Text} {value : α} {member : Text × α}
    (h : member ∈ put members name value) : member = (name, value) ∨ member ∈ members := by
  induction members with
  | nil => simpa [put] using h
  | cons first rest ih =>
    obtain ⟨key, old⟩ := first
    rw [put] at h
    split at h
    · next hkey =>
      subst hkey
      obtain rfl | h := List.mem_cons.1 h
      · exact .inl rfl
      · exact .inr (List.mem_cons_of_mem _ h)
    · obtain rfl | h := List.mem_cons.1 h
      · exact .inr List.mem_cons_self
      · obtain rfl | h := ih h
        · exact .inl rfl
        · exact .inr (List.mem_cons_of_mem _ h)

theorem mem_of_get? {members : Members α} {name : Text} {value : α}
    (h : get? members name = some value) : (name, value) ∈ members := by
  induction members with
  | nil => cases h
  | cons member rest ih =>
    obtain ⟨key, old⟩ := member
    rw [get?_cons] at h
    split at h
    · next hkey =>
      cases h
      simp [hkey]
    · exact List.mem_cons_of_mem _ (ih h)

theorem get?_of_mem {members : Members α} {name : Text} {value : α} (hnodup : (keys members).Nodup)
    (h : (name, value) ∈ members) : get? members name = some value := by
  induction members with
  | nil => cases h
  | cons member rest ih =>
    obtain ⟨key, old⟩ := member
    obtain ⟨hkey, hrest⟩ := List.nodup_cons.1 hnodup
    rw [get?_cons]
    obtain heq | h := List.mem_cons.1 h
    · cases heq
      rw [if_pos rfl]
    · have hne : key ≠ name := fun heq => hkey (List.mem_map.2 ⟨_, h, heq.symm⟩)
      rw [if_neg hne, ih hrest h]

theorem get?_eq_none_iff (members : Members α) (name : Text) :
    get? members name = none ↔ name ∉ keys members := by
  induction members with
  | nil => simp [get?, keys]
  | cons member rest ih =>
    obtain ⟨key, value⟩ := member
    by_cases h : key = name
    · simp [get?, keys, h]
    · have h' : ¬ name = key := fun e => h e.symm
      simpa [get?, keys, h, h'] using ih

theorem has_iff (members : Members α) (name : Text) :
    has members name = true ↔ name ∈ keys members := by
  have h := get?_eq_none_iff members name
  by_cases hmem : name ∈ keys members
  · have hne : get? members name ≠ none := fun e => h.1 e hmem
    simp [has, hmem, Option.isSome_iff_ne_none, hne]
  · simp [has, hmem, h.2 hmem]

/-! ## The names -/

theorem keys_put (members : Members α) (name : Text) (value : α) :
    keys (put members name value) =
      if name ∈ keys members then keys members else keys members ++ [name] := by
  induction members with
  | nil => simp [put, keys]
  | cons member rest ih =>
    obtain ⟨key, old⟩ := member
    by_cases h : key = name
    · simp [put, keys, h]
    · have h' : ¬ name = key := fun e => h e.symm
      simp only [keys] at ih
      by_cases hmem : name ∈ List.map Prod.fst rest <;>
        simp [put, keys, h, h', ih, hmem]

theorem nodup_keys_put (members : Members α) (name : Text) (value : α)
    (h : (keys members).Nodup) : (keys (put members name value)).Nodup := by
  rw [keys_put]
  split
  · exact h
  · next hmem =>
    rw [List.nodup_append]
    refine ⟨h, by simp, ?_⟩
    intro a ha b hb
    simp only [List.mem_singleton] at hb
    subst hb
    exact fun e => hmem (e ▸ ha)

theorem nodup_keys_merge (base newer : Members α) (h : (keys base).Nodup) :
    (keys (merge base newer)).Nodup := by
  induction newer generalizing base with
  | nil => exact h
  | cons member rest ih => exact ih _ (nodup_keys_put base member.1 member.2 h)

@[simp] theorem keys_mapValues (f : α → β) (members : Members α) :
    keys (mapValues f members) = keys members := by
  simp [keys, mapValues, Function.comp_def]

end Members

end MockApi
