import XbosCustomerChannel.Entry.FakeContext

/-!
# Bindings of reassigned tables

A reassignment gives a table the next version of its reference, and no two places share a stem. So a
reference names a place and the time between two reassignments of it.
-/

namespace XbosCustomerChannel

open Data

/-- The table as a place. -/
def Reassignment.place (r : Reassignment) : FakeXBOSContextClient.Place :=
  (r.merchantRef, r.locationRef, some r.tableRef)

theorem Reassignment.place_eq_iff (r : Reassignment) {merchantRef locationRef tableRef : String} :
    r.place = (merchantRef, locationRef, some tableRef) ↔
      (merchantRef, locationRef, tableRef) = r.key := by
  simp [Reassignment.place, Reassignment.key, eq_comm]

namespace FakeXBOSContextClient

/-- The place is bound by a reference with a version, which can be written. -/
structure BoundAs (client : FakeXBOSContextClient) (place : Place) (r : VersionedRef) : Prop where
  binding : client.bindingRef? place = some r.text
  writable : (PyInt.format r.version).isSome

/-- The table is reassigned in the run, by a call that succeeds. -/
def Reassigned (client : FakeXBOSContextClient) (rs : List Reassignment) (place : Place) : Prop :=
  ∃ before r after, rs = before ++ r :: after ∧ r.place = place ∧
    ((client.run before).reassignTable r).1 = .ok ()

variable {client : FakeXBOSContextClient}

theorem not_reassigned_nil (client : FakeXBOSContextClient) (place : Place) :
    ¬ client.Reassigned [] place := by
  rintro ⟨before, r, after, h, -⟩
  simp at h

theorem reassigned_cons {r : Reassignment} {rs : List Reassignment} {place : Place} :
    client.Reassigned (r :: rs) place ↔
      (r.place = place ∧ (client.reassignTable r).1 = .ok ()) ∨
        (client.reassignTable r).2.Reassigned rs place := by
  constructor
  · rintro ⟨before, r', after, hrs, hplace, hok⟩
    cases before with
    | nil =>
        obtain ⟨rfl, rfl⟩ := List.cons.inj hrs
        exact Or.inl ⟨hplace, hok⟩
    | cons first before =>
        obtain ⟨rfl, rfl⟩ := List.cons.inj hrs
        exact Or.inr ⟨before, r', after, rfl, hplace, hok⟩
  · rintro (⟨hplace, hok⟩ | ⟨before, r', after, rfl, hplace, hok⟩)
    · exact ⟨[], r, rs, rfl, hplace, hok⟩
    · exact ⟨r :: before, r', after, rfl, hplace, hok⟩

/-! ## One reassignment -/

/-- What `reassign_table` does: it binds the table anew, or nothing. -/
theorem reassignTable_cases (client : FakeXBOSContextClient) (r : Reassignment) :
    (∃ area currentBinding binding, client.bound? r.place = some (area, currentBinding) ∧
      followingBinding currentBinding = .ok binding ∧
      client.reassignTable r =
        (.ok (), { client with tables := client.tables.set r.key (r.diningAreaRef, binding) })) ∨
    ∃ e, client.reassignTable r = (.error e, client) := by
  unfold reassignTable
  cases hget : client.tables.get? r.key with
  | none => exact Or.inr ⟨_, rfl⟩
  | some bound =>
      obtain ⟨area, currentBinding⟩ := bound
      dsimp only
      split
      · next e he => exact Or.inr ⟨e, rfl⟩
      · next binding hbinding => exact Or.inl ⟨area, currentBinding, binding, hget, hbinding, rfl⟩

/-- A table that is set is bound so, and no other place is. -/
theorem bound?_set (client : FakeXBOSContextClient) (r : Reassignment)
    (bound : Option String × String) (place : Place) :
    FakeXBOSContextClient.bound? { client with tables := client.tables.set r.key bound } place =
      if r.place = place then some bound else client.bound? place := by
  obtain ⟨merchantRef, locationRef, tableRef⟩ := place
  cases tableRef with
  | none => simp [bound?, Reassignment.place]
  | some tableRef =>
      show (client.tables.set r.key bound).get? (merchantRef, locationRef, tableRef) = _
      rw [Dict.get?_set]
      by_cases hkey : (merchantRef, locationRef, tableRef) = r.key
      · rw [if_pos hkey, if_pos (r.place_eq_iff.mpr hkey)]
      · rw [if_neg hkey, if_neg (r.place_eq_iff.not.mpr hkey)]
        rfl

/-- A reassignment leaves the other places, and every place if it fails. -/
theorem bound?_reassignTable {r : Reassignment} {place : Place}
    (h : ¬ (r.place = place ∧ (client.reassignTable r).1 = .ok ())) :
    (client.reassignTable r).2.bound? place = client.bound? place := by
  rcases reassignTable_cases client r with ⟨area, currentBinding, binding, -, -, heq⟩ | ⟨e, heq⟩
  · rw [heq] at h ⊢
    rw [bound?_set, if_neg fun hplace => h ⟨hplace, rfl⟩]
  · rw [heq]

/-- The reference of a place is kept, or it is the next one if the place was reassigned. -/
theorem BoundAs.reassignTable {place : Place} {ref : VersionedRef} (h : client.BoundAs place ref)
    (r : Reassignment) :
    (r.place = place ∧ (client.reassignTable r).1 = .ok () ∧
        (client.reassignTable r).2.BoundAs place ref.next) ∨
      (¬ (r.place = place ∧ (client.reassignTable r).1 = .ok ()) ∧
        (client.reassignTable r).2.BoundAs place ref) := by
  by_cases hboth : r.place = place ∧ (client.reassignTable r).1 = .ok ()
  case neg =>
    refine Or.inr ⟨hboth, ?_, h.writable⟩
    rw [bindingRef?, bound?_reassignTable hboth]
    exact h.binding
  obtain ⟨rfl, hok⟩ := hboth
  refine Or.inl ⟨rfl, hok, ?_⟩
  rcases reassignTable_cases client r with
    ⟨area, currentBinding, binding, hbound, hfollowing, heq⟩ | ⟨e, heq⟩
  · have hcurrent := h.binding
    rw [bindingRef?, hbound] at hcurrent
    obtain rfl : currentBinding = ref.text := Option.some.inj hcurrent
    obtain ⟨rfl, hwritable⟩ := followingBinding_text h.writable hfollowing
    refine ⟨?_, hwritable⟩
    rw [heq, bindingRef?, bound?_set, if_pos rfl]
    rfl
  · rw [heq] at hok
    cases hok

/-! ## Runs -/

/-- In a run, the reference of a place advances by the number of its reassignments. -/
theorem BoundAs.run {place : Place} {ref : VersionedRef} (h : client.BoundAs place ref)
    (rs : List Reassignment) :
    ∃ n, (client.run rs).BoundAs place (ref.advance n) ∧ (n = 0 ↔ ¬ client.Reassigned rs place) := by
  induction rs generalizing client ref with
  | nil =>
      refine ⟨0, ?_, iff_of_true rfl (not_reassigned_nil client place)⟩
      simpa using h
  | cons r rs ih =>
      rcases h.reassignTable r with ⟨hplace, hok, hnext⟩ | ⟨hnot, hkept⟩
      · obtain ⟨n, hbound, -⟩ := ih hnext
        rw [VersionedRef.next_advance] at hbound
        refine ⟨n + 1, hbound, iff_of_false (Nat.succ_ne_zero n) ?_⟩
        exact not_not.mpr (reassigned_cons.mpr (Or.inl ⟨hplace, hok⟩))
      · obtain ⟨n, hbound, hn⟩ := ih hkept
        refine ⟨n, hbound, hn.trans (not_congr ?_)⟩
        rw [reassigned_cons, or_iff_right hnot]

/-- Every place that is bound is bound by a reference with a version, and no two by references of
one stem. -/
structure WellBound (client : FakeXBOSContextClient) : Prop where
  bound : ∀ place text, client.bindingRef? place = some text → ∃ ref, client.BoundAs place ref
  stems : ∀ place place' ref ref', client.BoundAs place ref → client.BoundAs place' ref' →
    ref.stem = ref'.stem → place = place'

theorem BoundAs.unique {place : Place} {ref ref' : VersionedRef} (h : client.BoundAs place ref)
    (h' : client.BoundAs place ref') : ref = ref' := by
  have hsame := h.binding.symm.trans h'.binding
  exact VersionedRef.text_injective (Option.some.inj hsame)

/-- A place that is not bound is not bound later. -/
theorem bound?_run_eq_none {place : Place} (h : client.bound? place = none)
    (rs : List Reassignment) : (client.run rs).bound? place = none := by
  induction rs generalizing client with
  | nil => exact h
  | cons r rs ih =>
      rw [run_cons]
      apply ih
      rwa [bound?_reassignTable]
      rintro ⟨rfl, hok⟩
      rcases reassignTable_cases client r with ⟨area, currentBinding, binding, hbound, -⟩ | ⟨e, heq⟩
      · rw [h] at hbound
        cases hbound
      · rw [heq] at hok
        cases hok

theorem WellBound.bound_of_run (h : client.WellBound) {rs : List Reassignment} {place : Place}
    {text : String} (hbinding : (client.run rs).bindingRef? place = some text) :
    ∃ ref n, client.BoundAs place ref ∧ (client.run rs).BoundAs place (ref.advance n) ∧
      text = (ref.advance n).text := by
  cases hget : client.bindingRef? place with
  | none =>
      rw [bindingRef?, bound?_run_eq_none (Option.map_eq_none_iff.mp hget)] at hbinding
      cases hbinding
  | some text' =>
      obtain ⟨ref, hbound⟩ := h.bound place text' hget
      obtain ⟨n, hlater, -⟩ := hbound.run rs
      refine ⟨ref, n, hbound, hlater, ?_⟩
      rw [hlater.binding] at hbinding
      exact (Option.some.inj hbinding).symm

theorem WellBound.run (h : client.WellBound) (rs : List Reassignment) : (client.run rs).WellBound where
  bound place text hbinding := by
    obtain ⟨ref, n, -, hlater, -⟩ := h.bound_of_run hbinding
    exact ⟨_, hlater⟩
  stems place place' ref ref' hbound hbound' hstem := by
    obtain ⟨first, n, hfirst, hlater, -⟩ := h.bound_of_run hbound.binding
    obtain ⟨first', n', hfirst', hlater', -⟩ := h.bound_of_run hbound'.binding
    rw [hbound.unique hlater, hbound'.unique hlater'] at hstem
    exact h.stems place place' first first' hfirst hfirst' hstem

/-- Two references given out in a run are the same if and only if they are of one place, which was not
reassigned in between. -/
theorem WellBound.bindingRef?_eq_iff (h : client.WellBound) {between : List Reassignment}
    {place place' : Place} {text text' : String} (htext : client.bindingRef? place = some text)
    (htext' : (client.run between).bindingRef? place' = some text') :
    text' = text ↔ place' = place ∧ ¬ client.Reassigned between place := by
  obtain ⟨ref, hbound⟩ := h.bound place text htext
  obtain ⟨n, hlater, hn⟩ := hbound.run between
  obtain ⟨ref', n', hfirst', hlater', rfl⟩ := h.bound_of_run htext'
  obtain rfl : ref.text = text := Option.some.inj (hbound.binding.symm.trans htext)
  constructor
  · intro heq
    have hsame := VersionedRef.text_injective heq
    have hstem : (ref'.advance n').stem = ref.stem := by
      rw [hsame]
    obtain rfl := h.stems place' place ref' ref hfirst' hbound hstem
    obtain rfl := hfirst'.unique hbound
    obtain rfl := VersionedRef.advance_eq_self.mp hsame
    refine ⟨rfl, hn.mp ?_⟩
    have hzero := hlater.unique hlater'
    rw [VersionedRef.advance_zero, VersionedRef.advance_eq_self] at hzero
    exact hzero
  · rintro ⟨rfl, hnot⟩
    obtain rfl := hn.mpr hnot
    rw [hlater'.unique hlater, VersionedRef.advance_zero]

/-! ## The fixture -/

/-- The places of the fixture and the references they start with. -/
def fixtureRefs : List (Place × VersionedRef) :=
  [(("merchant:fixture:alpha", "location:fixture:one", some "table:fixture:a1"),
      ⟨"ctxbind:alpha:one:a1".toList, 1⟩),
    (("merchant:fixture:alpha", "location:fixture:one", some "table:fixture:a2"),
      ⟨"ctxbind:alpha:one:a2".toList, 1⟩),
    (("merchant:fixture:beta", "location:fixture:two", some "table:fixture:b1"),
      ⟨"ctxbind:beta:two:b1".toList, 1⟩),
    (("merchant:fixture:alpha", "location:fixture:one", none),
      ⟨"ctxbind:alpha:one:discovery".toList, 1⟩),
    (("merchant:fixture:beta", "location:fixture:two", none),
      ⟨"ctxbind:beta:two:discovery".toList, 1⟩)]

theorem bound?_fixture_of_notMem {place : Place} (h : place ∉ fixtureRefs.map Prod.fst) :
    fixture.bound? place = none := by
  obtain ⟨merchantRef, locationRef, tableRef⟩ := place
  simp only [fixtureRefs, List.map_cons, List.map_nil, List.mem_cons, List.not_mem_nil, or_false,
    not_or] at h
  cases tableRef with
  | some tableRef =>
      simp only [Prod.mk.injEq, Option.some.injEq] at h
      simp only [bound?, fixture, Dict.get?_set, Prod.mk.injEq, h, if_false]
      rfl
  | none =>
      simp only [Prod.mk.injEq, and_true] at h
      simp only [bound?, fixture, Dict.get?_set, Prod.mk.injEq, h, if_false]
      rfl

theorem mem_fixtureRefs {place : Place} {text : String}
    (h : fixture.bindingRef? place = some text) :
    ∃ ref, (place, ref) ∈ fixtureRefs ∧ ref.text = text := by
  have hbound : ∀ entry ∈ fixtureRefs, fixture.bindingRef? entry.1 = some entry.2.text := by
    decide +kernel
  by_cases hmem : place ∈ fixtureRefs.map Prod.fst
  · obtain ⟨⟨place, ref⟩, hentry, rfl⟩ := List.mem_map.mp hmem
    refine ⟨ref, hentry, ?_⟩
    rw [hbound _ hentry] at h
    exact Option.some.inj h
  · rw [bindingRef?, bound?_fixture_of_notMem hmem] at h
    cases h

theorem fixture_wellBound : fixture.WellBound := by
  have hwritable : ∀ entry ∈ fixtureRefs, (PyInt.format entry.2.version).isSome := by
    decide +kernel
  have hstems : ∀ entry ∈ fixtureRefs, ∀ entry' ∈ fixtureRefs,
      entry.2.stem = entry'.2.stem → entry.1 = entry'.1 := by
    decide +kernel
  have hlisted {place : Place} {ref : VersionedRef} (h : fixture.BoundAs place ref) :
      (place, ref) ∈ fixtureRefs := by
    obtain ⟨ref', hmem, htext⟩ := mem_fixtureRefs h.binding
    rwa [VersionedRef.text_injective htext] at hmem
  refine ⟨fun place text hbinding => ?_, fun place place' ref ref' h h' hstem => ?_⟩
  · obtain ⟨ref, hmem, rfl⟩ := mem_fixtureRefs hbinding
    exact ⟨ref, hbinding, hwritable _ hmem⟩
  · exact hstems _ (hlisted h) _ (hlisted h') hstem

/-! ## Attestations -/

/-- The place an attestation is about. -/
def placeOf (a : EntryContextAttestation) : Place := (a.merchantRef, a.locationRef, a.tableRef)

/-- The client attests the context when it is asked for it. -/
def Attests (client : FakeXBOSContextClient) (a : EntryContextAttestation) : Prop :=
  client.attestContext a.merchantRef a.locationRef a.tableRef a.purpose a.diningAreaRef = .ok a

theorem Attests.binding {a : EntryContextAttestation} (h : client.Attests a) :
    client.bindingRef? (placeOf a) = some a.contextBindingRef := (attestContext_ok h).2

/-- Whatever request it answered, the client attests its answer. -/
theorem attests_of_ok {merchantRef locationRef : String} {tableRef : Option String}
    {purpose : EntryPurpose} {diningAreaRef : Option String} {a : EntryContextAttestation}
    (h : client.attestContext merchantRef locationRef tableRef purpose diningAreaRef = .ok a) :
    client.Attests a := by
  unfold attestContext at h
  obtain ⟨context, hcontext, h⟩ := Traversal.bind_eq_ok.mp h
  obtain ⟨found, hfound, h⟩ := Traversal.bind_eq_ok.mp h
  obtain rfl := Except.ok.inj h
  refine Traversal.bind_eq_ok.mpr ⟨context, hcontext, ?_⟩
  -- the area that was found is one to ask for
  exact Traversal.bind_eq_ok.mpr
    ⟨found, bindingFor_ok.mpr ⟨(bindingFor_ok.mp hfound).1, fun _ => rfl⟩, rfl⟩

/-- The area that is asked for decides only whether there is an answer. -/
theorem attestContext_area {merchantRef locationRef : String} {tableRef : Option String}
    {purpose : EntryPurpose} {area area' : Option String} {a a' : EntryContextAttestation}
    (h : client.attestContext merchantRef locationRef tableRef purpose area = .ok a)
    (h' : client.attestContext merchantRef locationRef tableRef purpose area' = .ok a') : a = a' := by
  unfold attestContext at h h'
  obtain ⟨context, hcontext, h⟩ := Traversal.bind_eq_ok.mp h
  obtain ⟨found, hfound, h⟩ := Traversal.bind_eq_ok.mp h
  obtain ⟨context', hcontext', h'⟩ := Traversal.bind_eq_ok.mp h'
  obtain ⟨found', hfound', h'⟩ := Traversal.bind_eq_ok.mp h'
  obtain rfl := Except.ok.inj (hcontext.symm.trans hcontext')
  have hfound := (bindingFor_ok.mp hfound).1
  have hfound' := (bindingFor_ok.mp hfound').1
  obtain rfl := Option.some.inj (hfound.symm.trans hfound')
  exact Except.ok.inj (h.symm.trans h')

/-- What is attested of a place goes by the tenants and the binding of the place. -/
theorem attestContext_congr {client' : FakeXBOSContextClient} {merchantRef locationRef : String}
    {tableRef : Option String} (hcontexts : client'.contexts = client.contexts)
    (hbound : client'.bound? (merchantRef, locationRef, tableRef) =
      client.bound? (merchantRef, locationRef, tableRef))
    (purpose : EntryPurpose) (diningAreaRef : Option String) :
    client'.attestContext merchantRef locationRef tableRef purpose diningAreaRef =
      client.attestContext merchantRef locationRef tableRef purpose diningAreaRef := by
  have hbinding : client'.bindingFor merchantRef locationRef tableRef diningAreaRef =
      client.bindingFor merchantRef locationRef tableRef diningAreaRef := by
    unfold bound? at hbound
    unfold bindingFor
    cases tableRef with
    | some tableRef =>
        dsimp only at hbound ⊢
        rw [hbound]
    | none =>
        have hget := Option.map_injective (fun _ _ heq => (Prod.mk.inj heq).2) hbound
        dsimp only
        rw [hget]
  unfold attestContext contextFor
  rw [hbinding, hcontexts]

theorem reassignTable_contexts (client : FakeXBOSContextClient) (r : Reassignment) :
    (client.reassignTable r).2.contexts = client.contexts := by
  rcases reassignTable_cases client r with ⟨area, currentBinding, binding, -, -, heq⟩ | ⟨e, heq⟩
  · rw [heq]
  · rw [heq]

theorem attestContext_run {merchantRef locationRef : String} {tableRef : Option String}
    {rs : List Reassignment} (h : ¬ client.Reassigned rs (merchantRef, locationRef, tableRef))
    (purpose : EntryPurpose) (diningAreaRef : Option String) :
    (client.run rs).attestContext merchantRef locationRef tableRef purpose diningAreaRef =
      client.attestContext merchantRef locationRef tableRef purpose diningAreaRef := by
  induction rs generalizing client with
  | nil => rfl
  | cons r rs ih =>
      rw [reassigned_cons, not_or] at h
      rw [run_cons, ih h.2, attestContext_congr (reassignTable_contexts client r)
        (bound?_reassignTable h.1)]

/-- A context that was attested is attested the same again, in a run, exactly as long as its table is
not reassigned. -/
theorem WellBound.attested_again_iff (h : client.WellBound) {a : EntryContextAttestation}
    (ha : client.Attests a) (rs : List Reassignment) :
    (∃ a', (client.run rs).attestContext a.merchantRef a.locationRef a.tableRef a.purpose
        a.diningAreaRef = .ok a' ∧ a'.boundContext = a.boundContext) ↔
      ¬ client.Reassigned rs (placeOf a) := by
  constructor
  · rintro ⟨a', ha', hsame⟩
    have hbinding : a'.contextBindingRef = a.contextBindingRef :=
      Option.some.inj (congrArg BoundContext.contextBindingRef hsame)
    have hlater := (attestContext_ok ha').2
    rw [hbinding] at hlater
    exact ((h.bindingRef?_eq_iff ha.binding hlater).mp rfl).2
  · intro hnot
    refine ⟨a, ?_, rfl⟩
    rw [attestContext_run hnot]
    exact ha

theorem run_append (client : FakeXBOSContextClient) (before after : List Reassignment) :
    client.run (before ++ after) = (client.run before).run after := List.foldl_append

/-- Of two attestations in a run of the client, for whatever requests, the later one has the binding of
the earlier one if and only if it is about the same place and the table was not reassigned in between.
Then both agree in all that a session or a token is bound to, but for the purpose. -/
theorem attestations_agree_iff (before between : List Reassignment) {a a' : EntryContextAttestation}
    (ha : (fixture.run before).Attests a) (ha' : (fixture.run (before ++ between)).Attests a') :
    (a'.contextBindingRef = a.contextBindingRef ↔
      placeOf a' = placeOf a ∧ ¬ (fixture.run before).Reassigned between (placeOf a)) ∧
    (a'.boundContext = a.boundContext ↔ (placeOf a' = placeOf a ∧ a'.purpose = a.purpose) ∧
      ¬ (fixture.run before).Reassigned between (placeOf a)) := by
  have hwell := fixture_wellBound.run before
  rw [run_append] at ha'
  have hbinding := hwell.bindingRef?_eq_iff ha.binding ha'.binding
  refine ⟨hbinding, fun hsame => ?_, ?_⟩
  · have href : a'.contextBindingRef = a.contextBindingRef :=
      Option.some.inj (congrArg BoundContext.contextBindingRef hsame)
    obtain ⟨hplace, hnot⟩ := hbinding.mp href
    exact ⟨⟨hplace, Option.some.inj (congrArg BoundContext.purpose hsame)⟩, hnot⟩
  · rintro ⟨⟨hplace, hpurpose⟩, hnot⟩
    obtain ⟨hmerchant, hrest⟩ := Prod.mk.inj hplace
    obtain ⟨hlocation, htable⟩ := Prod.mk.inj hrest
    -- the table is as it was, so the earlier attestation is the answer to the later request, up to
    -- the area that was asked for
    have hplain := hnot
    unfold placeOf at hplain
    unfold Attests at ha ha'
    rw [hmerchant, hlocation, htable, hpurpose, attestContext_run hplain] at ha'
    exact congrArg EntryContextAttestation.boundContext (attestContext_area ha' ha)

/-- A table of the fixture is moved to another area. -/
def moved : Reassignment where
  merchantRef := "merchant:fixture:alpha"
  locationRef := "location:fixture:one"
  tableRef := "table:fixture:a1"
  diningAreaRef := some "area:fixture:terrace"

theorem attestations_agree_iff_moved : ∃ a a', fixture.Attests a ∧
    (fixture.run ([] ++ [moved])).Attests a' ∧ placeOf a = moved.place ∧ placeOf a' = moved.place ∧
    (a'.contextBindingRef = a.contextBindingRef ↔
      placeOf a' = placeOf a ∧ ¬ (fixture.run []).Reassigned [moved] (placeOf a)) := by
  obtain ⟨a, ha⟩ := exists_ok_of_isOk (r := fixture.attestContext moved.merchantRef moved.locationRef
    (some moved.tableRef) .takeaway none) (by decide +kernel)
  obtain ⟨a', ha'⟩ := exists_ok_of_isOk (r := (fixture.run ([] ++ [moved])).attestContext
    moved.merchantRef moved.locationRef (some moved.tableRef) .takeaway none) (by decide +kernel)
  obtain ⟨⟨hmerchant, hlocation, htable⟩, -⟩ := attestContext_ok ha
  obtain ⟨⟨hmerchant', hlocation', htable'⟩, -⟩ := attestContext_ok ha'
  refine ⟨a, a', attests_of_ok ha, attests_of_ok ha', ?_, ?_, ?_⟩
  · rw [placeOf, hmerchant, hlocation, htable]
    rfl
  · rw [placeOf, hmerchant', hlocation', htable']
    rfl
  · exact (attestations_agree_iff [] [moved] (attests_of_ok ha) (attests_of_ok ha')).1

end FakeXBOSContextClient

end XbosCustomerChannel
