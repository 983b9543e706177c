import Mathlib.Init

/-!
# JSON values

What a JSON text is parsed to. An object is a list of entries of which the first one under a name
counts; a number with a fraction or an exponent is kept as its text.
-/

namespace Data

inductive JsonValue
  | null
  | bool (b : Bool)
  | int (n : Int)
  | float (literal : String)
  | str (text : String)
  | arr (items : List JsonValue)
  | obj (entries : List (String × JsonValue))
  deriving Repr

abbrev JsonObject := List (String × JsonValue)

/-- `entries.get(name)`; a name that is not there is like one that is `null`. -/
def fieldOf (entries : JsonObject) (name : String) : JsonValue :=
  (entries.lookup name).getD .null

namespace JsonValue

/-- The field of an object; `null` for any other value. -/
def get (v : JsonValue) (name : String) : JsonValue :=
  match v with
  | .obj entries => fieldOf entries name
  | _ => .null

/-- The objects of a list. -/
def objects : JsonValue → List JsonObject
  | .arr items => items.filterMap fun
      | .obj entries => some entries
      | _ => none
  | _ => []

/-- A non-empty text. -/
def IsText (v : JsonValue) : Prop := ∃ text, v = .str text ∧ text ≠ ""

/-- An object that `P` holds of. -/
def IsObject (P : JsonObject → Prop) (v : JsonValue) : Prop := ∃ entries, v = .obj entries ∧ P entries

/-- A non-empty list of objects that `P` holds of. -/
def IsList (P : JsonObject → Prop) (v : JsonValue) : Prop :=
  ∃ items, v = .arr items ∧ items ≠ [] ∧ ∀ item ∈ items, item.IsObject P

/-- Such a list, or `null`. -/
def IsOptionalList (P : JsonObject → Prop) (v : JsonValue) : Prop := v = .null ∨ v.IsList P

@[simp] theorem get_obj (entries : JsonObject) (name : String) :
    (obj entries).get name = fieldOf entries name := rfl

@[simp] theorem objects_null : objects .null = [] := rfl

variable {P Q : JsonObject → Prop}

/-- Such a list is the list of its objects. -/
theorem IsList.objects {v : JsonValue} (h : v.IsList P) :
    v = .arr (v.objects.map .obj) ∧ ∀ entries ∈ v.objects, P entries := by
  obtain ⟨items, rfl, -, hitems⟩ := h
  unfold JsonValue.objects
  induction items with
  | nil => exact ⟨rfl, by simp⟩
  | cons item items ih =>
      obtain ⟨entries, rfl, hP⟩ := hitems item List.mem_cons_self
      obtain ⟨hrest, hall⟩ := ih fun item hitem => hitems item (List.mem_cons_of_mem _ hitem)
      refine ⟨congrArg (fun items => arr (obj entries :: items)) (arr.inj hrest), ?_⟩
      intro entries' hmem
      rcases List.mem_cons.mp hmem with rfl | hmem
      · exact hP
      · exact hall entries' hmem

/-- Of a list of objects, `P` holds of each. -/
theorem isList_iff {v : JsonValue} :
    v.IsList P ↔ v.IsList (fun _ => True) ∧ ∀ entries ∈ v.objects, P entries := by
  constructor
  · intro h
    refine ⟨?_, h.objects.2⟩
    obtain ⟨items, hv, hne, hitems⟩ := h
    refine ⟨items, hv, hne, fun item hitem => ?_⟩
    obtain ⟨entries, hentries, -⟩ := hitems item hitem
    exact ⟨entries, hentries, trivial⟩
  · rintro ⟨h, hall⟩
    obtain ⟨hv, -⟩ := h.objects
    obtain ⟨items, hitems, hne, -⟩ := h
    refine ⟨v.objects.map .obj, hv, ?_, fun item hitem => ?_⟩
    · rw [← arr.inj (hitems.symm.trans hv)]
      exact hne
    · obtain ⟨entries, hentries, rfl⟩ := List.mem_map.mp hitem
      exact ⟨entries, rfl, hall entries hentries⟩

theorem isOptionalList_iff {v : JsonValue} :
    v.IsOptionalList P ↔ v.IsOptionalList (fun _ => True) ∧ ∀ entries ∈ v.objects, P entries := by
  unfold IsOptionalList
  rw [isList_iff (P := P)]
  constructor
  · rintro (rfl | ⟨h, hall⟩)
    · exact ⟨Or.inl rfl, by simp⟩
    · exact ⟨Or.inr h, hall⟩
  · rintro ⟨h, hall⟩
    exact h.imp_right fun h => ⟨h, hall⟩

variable {R : JsonObject → Prop}

theorem isList_and {v : JsonValue} (h : ∀ entries, P entries ↔ Q entries ∧ R entries) :
    v.IsList P ↔ v.IsList Q ∧ ∀ entries ∈ v.objects, R entries := by
  rw [isList_iff (P := P), isList_iff (P := Q)]
  simp only [h, forall_and, and_assoc]

theorem isOptionalList_and {v : JsonValue} (h : ∀ entries, P entries ↔ Q entries ∧ R entries) :
    v.IsOptionalList P ↔ v.IsOptionalList Q ∧ ∀ entries ∈ v.objects, R entries := by
  rw [isOptionalList_iff (P := P), isOptionalList_iff (P := Q)]
  simp only [h, forall_and, and_assoc]

end JsonValue

end Data
