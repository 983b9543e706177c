import XbosCustomerChannel.Session.Concurrent

/-!
# Session updates at once

A call sets some fields of a session and writes back the others as it read them. An update is kept
as long as what is written back is what is stored, and what a rotation copies is too: then the
newest session of a lineage shows, field by field, the last update that set the field.
-/

namespace XbosCustomerChannel

open Effects Effects.Program Data

/-- The fields that calls set. -/
inductive SessionField
  | state
  | orderRef
  | paymentRef
  | lastUpstreamEvidenceRef
  | cartRef
  | quoteRef
  deriving DecidableEq, Repr

instance : Fintype SessionField where
  elems := {.state, .orderRef, .paymentRef, .lastUpstreamEvidenceRef, .cartRef, .quoteRef}
  complete f := by cases f <;> decide

inductive FieldValue
  | state (s : ChannelState)
  | ref (r : Option String)
  deriving DecidableEq, Repr

namespace SessionField

def get (s : CustomerSessionSnapshot) : SessionField → FieldValue
  | state => .state s.state
  | orderRef => .ref s.orderRef
  | paymentRef => .ref s.paymentRef
  | lastUpstreamEvidenceRef => .ref s.lastUpstreamEvidenceRef
  | cartRef => .ref s.cartRef
  | quoteRef => .ref s.quoteRef

/-- A reference that is set. -/
def setRef (r : Option String) : Option FieldValue := if falsy r then none else some (.ref r)

/-- The value a change sets the field to, if it does. -/
def own (changes : SessionChanges) : SessionField → Option FieldValue
  | state => changes.state.map .state
  | orderRef => setRef changes.orderRef
  | paymentRef => setRef changes.paymentRef
  | lastUpstreamEvidenceRef => changes.lastUpstreamEvidenceRef.map fun r => .ref (some r)
  | cartRef => setRef changes.cartRef
  | quoteRef => setRef changes.quoteRef

theorem ref_pyOr (a b : Option String) :
    FieldValue.ref (pyOr a b) = (setRef a).getD (.ref b) := by
  unfold setRef pyOr
  split <;> rfl

/-- A change sets what it sets and writes the rest back. -/
theorem get_replace (f : SessionField) (base : CustomerSessionSnapshot) (changes : SessionChanges) :
    f.get (base.replace changes) = (f.own changes).getD (f.get base) := by
  cases f with
  | state => cases h : changes.state <;> simp [get, own, CustomerSessionSnapshot.replace, h]
  | lastUpstreamEvidenceRef =>
      cases h : changes.lastUpstreamEvidenceRef <;>
        simp [get, own, CustomerSessionSnapshot.replace, h]
  | orderRef => exact ref_pyOr _ _
  | paymentRef => exact ref_pyOr _ _
  | cartRef => exact ref_pyOr _ _
  | quoteRef => exact ref_pyOr _ _

end SessionField

section Updates

variable {π : Type}

/-- The condition on a schedule: what is written back, or copied by a rotation, is what is stored.
Nothing is written under a session that has been rotated away. -/
def KeepsUpdates (op : Channel.Op) (w : World π) : Prop :=
  (∀ base changes s, op = .session (.put base changes) →
    w.sessions.sessions.get? base.sessionRef = some s →
      s.staleOrRotated = false ∧
        ∀ f : SessionField, f.own changes = none → f.get base = f.get s) ∧
  (∀ ref owner now replacement s, op = .session (.rotateIfActive ref owner now replacement) →
    w.sessions.get ref = some s → s.staleOrRotated = false →
      ∀ f : SessionField, f.get replacement = f.get s)

instance decidableKeepsUpdates (w : World π) : (op : Channel.Op) → Decidable (KeepsUpdates op w)
  | .session (.put base changes) =>
      decidable_of_iff
        (∀ s ∈ w.sessions.sessions.get? base.sessionRef, s.staleOrRotated = false ∧
          ∀ f : SessionField, f.own changes = none → f.get base = f.get s)
        ⟨fun h => ⟨fun _ _ s hop hs => (by cases hop; exact h s hs),
            fun _ _ _ _ _ hop => (by cases hop)⟩,
          fun h s hs => h.1 base changes s rfl hs⟩
  | .session (.rotateIfActive ref owner now replacement) =>
      decidable_of_iff
        (∀ s ∈ w.sessions.get ref, s.staleOrRotated = false →
          ∀ f : SessionField, f.get replacement = f.get s)
        ⟨fun h => ⟨fun _ _ _ hop => (by cases hop),
            fun _ _ _ _ s hop hs => (by cases hop; exact h s hs)⟩,
          fun h s hs => h.2 ref owner now replacement s rfl hs⟩
  | .session (.putWithLegacyAlias _ _) | .session (.canonicalRef _) | .session (.get _)
  | .session (.idempotentResult _ _) | .session (.recordIdempotentResult _ _ _)
  | .provenance _ | .order _ | .upstream _ | .orderAuthority _ =>
      isTrue ⟨fun _ _ _ hop => (by cases hop), fun _ _ _ _ _ hop => (by cases hop)⟩

theorem KeepsUpdates.leavesRotated {op : Channel.Op} {w : World π} (h : KeepsUpdates op w) :
    LeavesRotated op w := by
  intro base changes s hop hs hstale
  have hactive := (h.1 base changes s hop hs).1
  rw [hactive] at hstale
  cases hstale

/-- The newest session of the lineage of a reference. -/
structure World.Newest (w : World π) (ref : String) (s : CustomerSessionSnapshot) : Prop where
  stored : w.sessions.sessions.get? s.sessionRef = some s
  active : s.staleOrRotated = false
  lineage : w.Lineage ref s.sessionRef

/-- Every lineage has a newest session. -/
def World.Headed (w : World π) : Prop :=
  ∀ ref s, w.sessions.sessions.get? ref = some s → ∃ newest, w.Newest ref newest

/-! ## One write -/

/-- What was written keeps every lineage. -/
theorem World.SessionsKept.lineage {w w' : World π} (h : w.SessionsKept w') {a b : String}
    (hab : w.Lineage a b) : w'.Lineage a b := by
  refine Relation.ReflTransGen.mono (fun a b hab => ?_) _ _ hab
  obtain ⟨s, hs, hpred⟩ := hab
  obtain ⟨s', hs', hbecame⟩ := h b s hs
  exact ⟨s', hs', hbecame.predecessor.trans hpred⟩

/-- A write makes of the newest session of a lineage its new newest one. -/
structure Carries (w w' : World π) (moved : CustomerSessionSnapshot → CustomerSessionSnapshot) :
    Prop where
  headed : w.Headed
  lineal : w'.Lineal
  kept : w.SessionsKept w'
  forth : ∀ ref n, w.Newest ref n → w'.Newest ref (moved n)

/-- Newest sessions are unique, so they are all carried. -/
theorem Carries.back {w w' : World π} {moved : CustomerSessionSnapshot → CustomerSessionSnapshot}
    (h : Carries w w' moved) {ref : String} {s t : CustomerSessionSnapshot}
    (hs : w.sessions.sessions.get? ref = some s) (ht : w'.Newest ref t) :
    ∃ n, w.Newest ref n ∧ t = moved n := by
  obtain ⟨n, hn⟩ := h.headed ref s hs
  have hmoved := h.forth ref n hn
  have href := h.lineal.active_unique ht.lineage hmoved.lineage ht.stored hmoved.stored ht.active
    hmoved.active
  have hstored := ht.stored
  rw [href, hmoved.stored] at hstored
  exact ⟨n, hn, (Option.some.inj hstored).symm⟩

theorem Carries.lineage {w w' : World π}
    {moved : CustomerSessionSnapshot → CustomerSessionSnapshot} (h : Carries w w' moved)
    {ref ref' : String} {n : CustomerSessionSnapshot} (hn : w.Newest ref n)
    (href : w.Lineage ref' n.sessionRef) : w'.Lineage ref' (moved n).sessionRef :=
  (h.forth ref' n ⟨hn.stored, hn.active, href⟩).lineage

/-! ## Commits -/

/-- An update a client has stored. -/
structure Commit (ι : Type) where
  client : ι
  ref : String
  changes : SessionChanges
  deriving DecidableEq

variable {ι : Type}

/-- What the newest sessions show of the updates so far: of each update every field, unless a later
update of the lineage has set it again. -/
structure Reflects (log : List (Commit ι)) (w : World π) : Prop where
  stored : ∀ c ∈ log, ∃ s, w.sessions.sessions.get? c.ref = some s
  shown : ∀ before c after (f : SessionField) v, log = before ++ c :: after →
    f.own c.changes = some v → ∀ n, w.Newest c.ref n →
      f.get n = v ∨
        ∃ later ∈ after, w.Lineage later.ref n.sessionRef ∧
          (f.own later.changes).isSome = true

theorem Reflects.nil (w : World π) : Reflects ([] : List (Commit ι)) w where
  stored c hc := by cases hc
  shown before c after f v hlog := by
    cases before <;> cases hlog

/-- A write that changes no field of a newest session. -/
theorem Reflects.carry {log : List (Commit ι)} {w w' : World π}
    {moved : CustomerSessionSnapshot → CustomerSessionSnapshot} (h : Reflects log w)
    (hc : Carries w w' moved)
    (hget : ∀ ref n (f : SessionField), w.Newest ref n → f.get (moved n) = f.get n) :
    Reflects log w' where
  stored c hmem := by
    obtain ⟨s, hs⟩ := h.stored c hmem
    obtain ⟨s', hs', -⟩ := hc.kept _ s hs
    exact ⟨s', hs'⟩
  shown before c after f v hlog hown t ht := by
    obtain ⟨s, hs⟩ := h.stored c (by rw [hlog]; simp)
    obtain ⟨n, hn, rfl⟩ := hc.back hs ht
    rw [hget c.ref n f hn]
    rcases h.shown before c after f v hlog hown n hn with hv | ⟨later, hmem, hlineage, hsome⟩
    · exact .inl hv
    · exact .inr ⟨later, hmem, hc.lineage hn hlineage, hsome⟩

/-- A write that commits an update to the newest session of its lineage. -/
theorem Reflects.commit {log : List (Commit ι)} {w w' : World π}
    {moved : CustomerSessionSnapshot → CustomerSessionSnapshot} {c : Commit ι} (h : Reflects log w)
    (hc : Carries w w' moved) {s : CustomerSessionSnapshot}
    (hs : w.sessions.sessions.get? c.ref = some s)
    (hget : ∀ ref n (f : SessionField), w.Newest ref n →
      f.get (moved n) = f.get n ∨
        (w.Lineage c.ref n.sessionRef ∧ (f.own c.changes).isSome = true))
    (hset : ∀ n (f : SessionField) v, w.Newest c.ref n → f.own c.changes = some v →
      f.get (moved n) = v) :
    Reflects (log ++ [c]) w' where
  stored d hd := by
    have hold : ∃ s, w.sessions.sessions.get? d.ref = some s := by
      rcases List.mem_append.mp hd with hd | hd
      · exact h.stored d hd
      · obtain rfl := List.mem_singleton.mp hd
        exact ⟨s, hs⟩
    obtain ⟨t, ht⟩ := hold
    obtain ⟨t', ht', -⟩ := hc.kept _ t ht
    exact ⟨t', ht'⟩
  shown before d after f v hlog hown t ht := by
    rcases List.eq_nil_or_concat after with rfl | ⟨after, e, rfl⟩
    · -- the update itself
      obtain ⟨-, hd⟩ := List.append_inj' hlog rfl
      obtain rfl : c = d := List.singleton_inj.mp hd
      obtain ⟨n, hn, rfl⟩ := hc.back hs ht
      exact .inl (hset n f v hn hown)
    -- an earlier update, which the newest session shows unless this one covers it
    · have hsplit : log ++ [c] = (before ++ d :: after) ++ [e] := by simpa using hlog
      obtain ⟨rfl, hce⟩ := List.append_inj' hsplit rfl
      obtain rfl : c = e := List.singleton_inj.mp hce
      obtain ⟨r, hr⟩ := h.stored d (by simp)
      obtain ⟨n, hn, rfl⟩ := hc.back hr ht
      rcases hget d.ref n f hn with hsame | ⟨hlineage, hsome⟩
      · rw [hsame]
        rcases h.shown before d after f v rfl hown n hn with hv | ⟨later, hmem, hlineage, hsome⟩
        · exact .inl hv
        · exact .inr ⟨later, by simp [hmem], hc.lineage hn hlineage, hsome⟩
      · exact .inr ⟨c, by simp, hc.lineage hn hlineage, hsome⟩

/-! ## What each operation carries -/

theorem put_carries {w : World π} (hheaded : w.Headed) {base : CustomerSessionSnapshot}
    {changes : SessionChanges} (hevolves : w.Evolves (w.stored (base.replace changes)))
    (hbase : base.staleOrRotated = false) :
    Carries w (w.stored (base.replace changes)) fun n =>
      if n.sessionRef = base.sessionRef then base.replace changes else n where
  headed := hheaded
  lineal := hevolves.lineal
  kept := hevolves.kept
  forth ref n hn := by
    have hlineage := hevolves.kept.lineage hn.lineage
    split
    · next href =>
      rw [href] at hlineage
      exact ⟨Dict.get?_set_self _ _ _, hbase, hlineage⟩
    · next href => exact ⟨(Dict.get?_set_of_ne _ href _).trans hn.stored, hn.active, hlineage⟩

theorem rotated_carries {w : World π} (hheaded : w.Headed)
    {current stored : CustomerSessionSnapshot} {newRef : String} {now : Int}
    (hevolves : w.Evolves (w.rotated current.sessionRef stored now
      (CustomerSessionService.replacementFor current newRef)))
    (hfresh : w.sessions.sessions.get? newRef = none) :
    Carries w (w.rotated current.sessionRef stored now
      (CustomerSessionService.replacementFor current newRef)) fun n =>
        if n.sessionRef = current.sessionRef then
          CustomerSessionService.replacementFor current newRef
        else n where
  headed := hheaded
  lineal := hevolves.lineal
  kept := hevolves.kept
  forth ref n hn := by
    have hlineage := hevolves.kept.lineage hn.lineage
    have hnew : (w.rotated current.sessionRef stored now
        (CustomerSessionService.replacementFor current newRef)).sessions.sessions.get? newRef =
          some (CustomerSessionService.replacementFor current newRef) := Dict.get?_set_self _ _ _
    split
    · next href =>
      rw [href] at hlineage
      exact ⟨hnew, rfl, hlineage.tail ⟨_, hnew, rfl⟩⟩
    · next href =>
      have hne : n.sessionRef ≠ newRef := by
        intro hne
        rw [← hne, hn.stored] at hfresh
        cases hfresh
      exact ⟨((Dict.get?_set_of_ne _ hne _).trans (Dict.get?_set_of_ne _ href _)).trans hn.stored,
        hn.active, hlineage⟩

theorem World.SameSessions.carries {w w' : World π} (h : w.SameSessions w') (hheaded : w.Headed)
    (hl : w.Lineal) : Carries w w' id where
  headed := hheaded
  lineal := (h.evolves hl).lineal
  kept := (h.evolves hl).kept
  forth ref n hn := ⟨by rw [h.sessions]; exact hn.stored, hn.active, (h.evolves hl).kept.lineage hn.lineage⟩

/-- A write that stores nothing new keeps every lineage headed. -/
theorem Carries.headed_after {w w' : World π}
    {moved : CustomerSessionSnapshot → CustomerSessionSnapshot} (h : Carries w w' moved)
    (hnew : ∀ ref s, w'.sessions.sessions.get? ref = some s →
      w.sessions.sessions.get? ref = none → s.staleOrRotated = false) : w'.Headed := by
  intro ref s hs
  cases hold : w.sessions.sessions.get? ref with
  | some t =>
      obtain ⟨n, hn⟩ := h.headed ref t hold
      exact ⟨moved n, h.forth ref n hn⟩
  | none =>
      have href : s.sessionRef = ref := h.lineal.keyed ref s hs
      exact ⟨s, by rw [href]; exact hs, hnew ref s hs hold, by rw [href]; exact .refl⟩

/-! ## Histories -/

/-- The newest session of a lineage stays or is replaced. -/
theorem SessionEffect.newest {ops : List (Channel.Op × World π)} {w w' : World π}
    (heff : SessionEffect ops w w') {ref : String} {n : CustomerSessionSnapshot}
    (hn : w.Newest ref n) : ∃ n', w'.Newest ref n' := by
  have hlineage := heff.lineage hn.lineage
  cases heff with
  | kept hsessions _ => exact ⟨n, by rw [hsessions]; exact hn.stored, hn.active, hlineage⟩
  | @changed current changes hstored _ hsessions _ =>
      by_cases href : n.sessionRef = current.sessionRef
      · have hcurrent := hn.stored
        rw [href, hstored] at hcurrent
        obtain rfl := Option.some.inj hcurrent
        refine ⟨current.replace changes, ?_, hn.active, hlineage⟩
        rw [hsessions]
        exact Dict.get?_set_self _ _ _
      · refine ⟨n, ?_, hn.active, hlineage⟩
        rw [hsessions, Dict.get?_set_of_ne _ href]
        exact hn.stored
  | @rotated current now newRef hstored _ hnew hsessions _ =>
      by_cases href : n.sessionRef = current.sessionRef
      · have hget : w'.sessions.sessions.get? newRef =
            some (CustomerSessionService.replacementFor current newRef) := by
          rw [hsessions]
          exact Dict.get?_set_self _ _ _
        rw [href] at hlineage
        exact ⟨CustomerSessionService.replacementFor current newRef, hget, rfl,
          hlineage.tail ⟨_, hget, rfl⟩⟩
      · refine ⟨n, ?_, hn.active, hlineage⟩
        rw [hsessions, Dict.get?_set_of_ne _ (World.ne_of_fresh hn.stored hnew),
          Dict.get?_set_of_ne _ href]
        exact hn.stored
  | @created new _ hnew hsessions _ =>
      refine ⟨n, ?_, hn.active, hlineage⟩
      rw [hsessions, Dict.get?_set_of_ne _ (World.ne_of_fresh hn.stored hnew)]
      exact hn.stored

/-- A session that an effect adds is active. -/
theorem SessionEffect.added_active {ops : List (Channel.Op × World π)} {w w' : World π}
    (heff : SessionEffect ops w w') {ref : String} {s : CustomerSessionSnapshot}
    (hs : w'.sessions.sessions.get? ref = some s) (hold : w.sessions.sessions.get? ref = none) :
    s.staleOrRotated = false := by
  cases heff.storedAfter hs with
  | same hs =>
      rw [hold] at hs
      cases hs
  | changed hstored _ =>
      rw [hstored] at hold
      cases hold
  | rotatedOut hstored _ _ =>
      rw [hstored] at hold
      cases hold
  | successor _ _ _ _ => rfl
  | created hnewborn _ _ =>
      simp [CustomerSessionSnapshot.staleOrRotated, hnewborn.rotatedTo, hnewborn.invalidated]

theorem survives_headed : Survives fun _ (w : World π) => w.Keyed ∧ w.Headed where
  keyed _ _ h := h.1
  effect _ _ w w' h heff hk := by
    refine ⟨hk, fun ref s hs => ?_⟩
    cases hold : w.sessions.sessions.get? ref with
    | some t =>
        obtain ⟨n, hn⟩ := h.2 ref t hold
        exact heff.newest hn
    | none =>
        have href : s.sessionRef = ref := hk ref s hs
        exact ⟨s, by rw [href]; exact hs, heff.added_active hs hold, by rw [href]; exact .refl⟩

theorem run_headed [XBOSOrderPort π] [Hashlib] (svc : OrderDraftConfirmationService) (orders : π)
    (upstream : Upstream) (refs : RefSource) (calls : List (ChannelCall π)) :
    (run svc (World.start orders upstream refs) calls).Headed :=
  (survives_headed.of_trace svc (T := [])
    ⟨start_keyed orders upstream refs, fun _ _ hs => by cases hs⟩ calls).2

end Updates

/-! ## Schedules -/

section Schedules

variable {π : Type} {ι : Type}

/-- The update an operation of a client commits. -/
def commitOf (i : ι) : Channel.Op → List (Commit ι)
  | .session (.put base changes) => [⟨i, base.sessionRef, changes⟩]
  | _ => []

theorem put_reflects {w : World π} (hl : w.Lineal) (hheaded : w.Headed) {i : ι}
    {base : CustomerSessionSnapshot} {changes : SessionChanges}
    (hkeeps : KeepsUpdates (.session (.put base changes)) w) (hheld : w.Holds base)
    {log : List (Commit ι)} (h : Reflects log w) :
    (w.stored (base.replace changes)).Headed ∧
      Reflects (log ++ [⟨i, base.sessionRef, changes⟩]) (w.stored (base.replace changes)) := by
  have hevolves := put_evolves hl hheld hkeeps.leavesRotated
  obtain ⟨s, hs, hbecame⟩ := hheld
  obtain ⟨hactive, hfields⟩ := hkeeps.1 base changes s rfl hs
  have hbase : base.staleOrRotated = false := by
    by_contra hstale
    rw [hbecame.stale (by simpa using hstale)] at hactive
    cases hactive
  have hcarries := put_carries hheaded hevolves hbase
  -- a newest session under the reference is the stored one
  have hsame {ref : String} {n : CustomerSessionSnapshot} (hn : w.Newest ref n)
      (href : n.sessionRef = base.sessionRef) : n = s := by
    have hstored := hn.stored
    rw [href, hs] at hstored
    exact (Option.some.inj hstored).symm
  refine ⟨hcarries.headed_after fun ref t ht hold => ?_, h.commit hcarries hs ?_ ?_⟩
  · change (w.sessions.sessions.set base.sessionRef _).get? ref = some t at ht
    rw [Dict.get?_set] at ht
    split at ht
    · next href =>
      rw [href, hs] at hold
      cases hold
    · rw [hold] at ht
      cases ht
  · intro ref n f hn
    split
    · next href =>
      rw [SessionField.get_replace]
      cases hown : f.own changes with
      | none => exact .inl (by rw [hsame hn href]; exact hfields f hown)
      | some v => exact .inr ⟨by rw [href]; exact .refl, rfl⟩
    · exact .inl rfl
  · intro n f v hn hown
    have href := hl.eq_of_active hn.lineage hs hactive
    rw [if_pos href, SessionField.get_replace, hown]
    rfl

theorem rotated_reflects {w : World π} (hl : w.Lineal) (hheaded : w.Headed)
    {current stored : CustomerSessionSnapshot} {newRef : String} {now : Int}
    (hstored : w.sessions.sessions.get? current.sessionRef = some stored)
    (hactive : stored.staleOrRotated = false) (hfresh : w.sessions.sessions.get? newRef = none)
    (hfields : ∀ f : SessionField,
      f.get (CustomerSessionService.replacementFor current newRef) = f.get stored)
    {log : List (Commit ι)} (h : Reflects log w) :
    (w.rotated current.sessionRef stored now
        (CustomerSessionService.replacementFor current newRef)).Headed ∧
      Reflects log (w.rotated current.sessionRef stored now
        (CustomerSessionService.replacementFor current newRef)) := by
  have hevolves := rotated_evolves hl now hstored hactive hfresh
  have hcarries := rotated_carries hheaded hevolves hfresh
  refine ⟨hcarries.headed_after fun ref t ht hold => ?_, h.carry hcarries fun ref n f hn => ?_⟩
  · change ((w.sessions.sessions.set current.sessionRef _).set newRef _).get? ref = some t at ht
    rw [Dict.get?_set, Dict.get?_set] at ht
    split at ht
    · obtain rfl := Option.some.inj ht
      rfl
    split at ht
    · next href =>
      rw [href, hstored] at hold
      cases hold
    · rw [hold] at ht
      cases ht
  · split
    · next href =>
      have hn := hn.stored
      rw [href, hstored] at hn
      rw [hfields f, Option.some.inj hn]
    · rfl

theorem World.SameSessions.reflects {w w' : World π} (h : w.SameSessions w') (hl : w.Lineal)
    (hheaded : w.Headed) {log : List (Commit ι)} (hlog : Reflects log w) :
    w'.Headed ∧ Reflects log w' := by
  have hcarries := h.carries hheaded hl
  refine ⟨hcarries.headed_after fun ref t ht hold => ?_, hlog.carry hcarries fun _ _ _ _ => rfl⟩
  rw [h.sessions, hold] at ht
  cases ht

variable [XBOSOrderPort π] [Hashlib]

/-- One operation: what it commits is shown from then on. -/
theorem handle_reflects {op : Channel.Op} {w : World π} {newRef : String} (hl : w.Lineal)
    (hheaded : w.Headed) (hkeeps : KeepsUpdates op w) (hwrites : WritesBack newRef op w) (i : ι)
    {log : List (Commit ι)} (h : Reflects log w) :
    (handle op w).2.Headed ∧ Reflects (log ++ commitOf i op) (handle op w).2 := by
  have hsame (hcommit : commitOf i op = []) (hw : w.SameSessions (handle op w).2) :
      (handle op w).2.Headed ∧ Reflects (log ++ commitOf i op) (handle op w).2 := by
    rw [hcommit, List.append_nil]
    exact hw.reflects hl hheaded h
  cases op with
  | provenance op => exact hsame rfl ⟨rfl, rfl⟩
  | order op => exact hsame rfl ⟨rfl, rfl⟩
  | upstream op => exact hsame rfl ⟨rfl, rfl⟩
  | orderAuthority op => exact hsame rfl ⟨rfl, rfl⟩
  | session op =>
      cases op with
      | canonicalRef ref => exact hsame rfl ⟨rfl, rfl⟩
      | get ref => exact hsame rfl ⟨rfl, rfl⟩
      | idempotentResult ref key => exact hsame rfl ⟨rfl, rfl⟩
      | recordIdempotentResult ref key s => exact hsame rfl ⟨rfl, rfl⟩
      | putWithLegacyAlias s a => exact hwrites.elim
      | put base changes => exact put_reflects hl hheaded hkeeps hwrites h
      | rotateIfActive ref owner now replacement =>
          obtain ⟨hfresh, hcanonical, current, rfl, rfl⟩ := hwrites
          rcases handle_rotateIfActive hcanonical owner now newRef with
            hw | ⟨stored, hstored, hactive, hworld⟩
          · exact hsame rfl hw
          · rw [hworld]
            have hget : w.sessions.get current.sessionRef = some stored := by
              unfold InMemoryCustomerSessionStore.get
              rw [hcanonical]
              exact hstored
            have hfields := hkeeps.2 _ _ _ _ stored rfl hget hactive
            simpa [commitOf] using rotated_reflects hl hheaded hstored hactive hfresh hfields h

/-- The update a client's turn commits. -/
def turnCommits (P : SessionPool π ι) (i : ι) : List (Commit ι) :=
  match P.threads i with
  | .call op _ => commitOf i op
  | _ => []

/-- The updates that clients commit along a schedule. -/
def commitsOf [DecidableEq ι] : SessionPool π ι → List (Turn ι (World π)) → List (Commit ι)
  | _, [] => []
  | P, .thread i :: turns => turnCommits P i ++ commitsOf (P.step handle (.thread i)) turns
  | P, .outside change :: turns => commitsOf (P.step handle (.outside change)) turns

variable [DecidableEq ι] {newSessionRef : ι → String} {P : SessionPool π ι}

/-- Along a schedule that keeps updates, what is committed is shown. -/
theorem run_reflects (hinjective : Function.Injective newSessionRef)
    (hsafe : P.AllSafe handle LeavesRotated (fun i => Relies (newSessionRef i))
      (fun i => WritesBack (newSessionRef i)) (fun _ _ _ => True))
    (hl : P.state.Lineal) (hheaded : P.state.Headed) {log : List (Commit ι)}
    (h : Reflects log P.state) {turns : List (Turn ι (World π))}
    (hturns : P.Admits handle KeepsUpdates World.SameSessions turns) :
    (P.run handle turns).state.Headed ∧
      Reflects (log ++ commitsOf P turns) (P.run handle turns).state := by
  induction turns generalizing P log with
  | nil => exact ⟨hheaded, by simpa [commitsOf] using h⟩
  | cons turn turns ih =>
      have hcompatible := sessions_compatible (π := π) hinjective
      cases turn with
      | outside change =>
          have hnext := hturns.1.reflects hl hheaded h
          exact ih (hsafe.step_outside hcompatible hturns.1) (hturns.1.evolves hl).lineal hnext.1
            hnext.2 hturns.2
      -- a thread's turn commits what its call writes, or it is idle
      | thread i =>
          have hleaves (op k) (hi : P.threads i = .call op k) : LeavesRotated op P.state :=
            (hturns.1 op k hi).leavesRotated
          have hsafe' := hsafe.step_thread hcompatible i hleaves
          by_cases hcall : ∃ op k, P.threads i = .call op k
          · obtain ⟨op, k, hi⟩ := hcall
            have hwrites := hsafe.guarantee hcompatible hi (hleaves op k hi)
            have hstep : (P.step handle (.thread i)).state = (handle op P.state).2 := by
              rw [Pool.step_thread_call handle hi]
            have hnext := handle_reflects hl hheaded (hturns.1 op k hi) hwrites i h
            have hlineal := (handle_evolves hl (hleaves op k hi) hwrites).1.lineal
            rw [← hstep] at hnext hlineal
            have hrest := ih hsafe' hlineal hnext.1 hnext.2 hturns.2
            have hcommits : turnCommits P i = commitOf i op := by
              unfold turnCommits
              rw [hi]
            rw [List.append_assoc, ← hcommits] at hrest
            exact hrest
          · have hidle (op k) (hk : P.threads i = .call op k) : False := hcall ⟨op, k, hk⟩
            have hcommits : turnCommits P i = [] := by
              unfold turnCommits
              split
              · next op k hk => exact (hidle op k hk).elim
              · rfl
            have hstep := Pool.step_thread_of_not_call handle fun op k hk => hidle op k hk
            show _ ∧ Reflects (log ++ (turnCommits P i ++ _)) _
            rw [hcommits]
            refine ih hsafe' ?_ ?_ ?_ hturns.2
            · rw [hstep]; exact hl
            · rw [hstep]; exact hheaded
            · rw [hstep]; exact h

/-! ## Clients that have committed return -/

/-- A write of an updated session. -/
def IsPut (op : Channel.Op) : Prop := ∃ base changes, op = .session (.put base changes)

omit [XBOSOrderPort π] [Hashlib] [DecidableEq ι] in
theorem not_isPut_of_reads (op : Channel.Op) (h : ChannelOp.Reads op) : ¬ IsPut op := by
  rintro ⟨base, changes, rfl⟩
  exact h

omit [XBOSOrderPort π] [Hashlib] [DecidableEq ι] in
theorem SessionCall.commitsBy (svc : CustomerSessionService) (newRef : String)
    (call : SessionCall) : (call.program svc newRef).CommitsBy IsPut := by
  cases call with
  | attach ref cart quote =>
      refine CommitsBy.bind (uses_required ref) not_isPut_of_reads fun current => ?_
      exact ⟨fun _ _ => trivial, fun _ => trivial⟩
  | transition args =>
      have hprior : (SessionStore.idempotentResult args.sessionRef args.idempotencyKey).Uses
          ChannelOp.Reads := ⟨trivial, fun _ => trivial⟩
      refine CommitsBy.bind hprior not_isPut_of_reads fun prior => ?_
      cases prior with
      | some prior => trivial
      | none =>
          refine CommitsBy.bind (uses_required _) not_isPut_of_reads fun current => ?_
          refine CommitsBy.bind (Uses.raiseIf _ _) not_isPut_of_reads fun _ => ?_
          refine CommitsBy.bind (Uses.raiseIf _ _) not_isPut_of_reads fun _ => ?_
          refine CommitsBy.bind (Uses.raiseIf _ _) not_isPut_of_reads fun _ => ?_
          refine CommitsBy.bind (svc.uses_evidenceChanges current args) not_isPut_of_reads ?_
          -- after the write only its result is recorded
          intro refs
          exact ⟨fun _ _ _ => trivial, fun _ => ⟨fun _ _ => trivial, fun _ => trivial⟩⟩
  | reenter ref =>
      have hcanonical : (SessionStore.canonicalRef ref).Uses ChannelOp.Reads :=
        ⟨trivial, fun _ => trivial⟩
      refine CommitsBy.bind hcanonical not_isPut_of_reads fun canonical => ?_
      refine CommitsBy.bind (uses_required ref) not_isPut_of_reads fun current => ?_
      split
      · trivial
      have hreconcile : (ask (.upstream (.reconcileSession current))).Uses ChannelOp.Reads :=
        ⟨trivial, fun _ => trivial⟩
      refine CommitsBy.bind hreconcile not_isPut_of_reads fun answer => ?_
      refine CommitsBy.bind (Uses.ofExcept _) not_isPut_of_reads fun found => ?_
      cases found with
      | none => trivial
      | some p =>
          refine CommitsBy.bind (Uses.ofExcept _) not_isPut_of_reads fun _ => ?_
          refine CommitsBy.bind (Uses.ofExcept _) not_isPut_of_reads fun state => ?_
          exact ⟨fun _ _ => trivial, fun _ => trivial⟩
  | resume args =>
      refine CommitsBy.of_uses (svc.uses_resumeSession args newRef) fun op hop => ?_
      rintro ⟨base, changes, rfl⟩
      exact hop

/-- A client that has committed cannot raise any more. -/
theorem neverRaises_of_mem_commitsOf (h : ∀ i, (P.threads i).CommitsBy IsPut)
    {turns : List (Turn ι (World π))} {c : Commit ι} (hc : c ∈ commitsOf P turns) :
    ((P.run handle turns).threads c.client).NeverRaises := by
  induction turns generalizing P with
  | nil => cases hc
  | cons turn turns ih =>
      have hnext := Pool.commitsBy_step (H := handle) h turn
      cases turn with
      | outside change => exact ih hnext hc
      | thread i =>
          rcases List.mem_append.mp hc with hc | hc
          · unfold turnCommits at hc
            split at hc
            · next op k hi =>
              unfold commitOf at hc
              split at hc
              · next base changes =>
                obtain rfl := List.mem_singleton.mp hc
                exact Pool.neverRaises_run
                  (Pool.neverRaises_of_commits h hi ⟨base, changes, rfl⟩) turns
              · cases hc
            · cases hc
          · exact ih hnext hc

/-- The client has returned. -/
def Returned (P : SessionPool π ι) (i : ι) : Prop := ∃ s, P.threads i = .done s

/-- After any history, and along any schedule of session calls with fresh references in which what
is written back or copied is what is stored: when all calls have finished, the newest session of a
lineage shows every update that a call has committed and returned, field by field, unless a later
call of the lineage, which has returned too, has set the field again. -/
theorem updates_kept (svc : OrderDraftConfirmationService) (orders : π) (upstream : Upstream)
    (refs : RefSource) (history : List (ChannelCall π)) {w : World π}
    (hw : w = run svc (World.start orders upstream refs) history) (calls : ι → SessionCall)
    (hfresh : FreshRefs w newSessionRef)
    (hP : P = sessionPool svc.sessions w calls newSessionRef) {turns : List (Turn ι (World π))}
    (hturns : P.Admits handle KeepsUpdates World.SameSessions turns)
    (hfinished : (P.run handle turns).Finished) {before after : List (Commit ι)} {c : Commit ι}
    (hcommits : commitsOf P turns = before ++ c :: after) {f : SessionField} {v : FieldValue}
    (hown : f.own c.changes = some v) :
    Returned (P.run handle turns) c.client ∧
      ∃ newest, (P.run handle turns).state.Newest c.ref newest ∧
        (f.get newest = v ∨
          ∃ later ∈ after, Returned (P.run handle turns) later.client ∧
            (P.run handle turns).state.Lineage later.ref newest.sessionRef ∧
            (f.own later.changes).isSome = true) := by
  have hl : w.Lineal := by
    rw [hw]
    exact run_lineal svc orders upstream refs history
  have hheaded : w.Headed := by
    rw [hw]
    exact run_headed svc orders upstream refs history
  have hreturned (d) (hd : d ∈ commitsOf P turns) : Returned (P.run handle turns) d.client := by
    refine Pool.returned_of_neverRaises (neverRaises_of_mem_commitsOf (fun i => ?_) hd) hfinished
    rw [hP]
    exact (calls i).commitsBy svc.sessions (newSessionRef i)
  have hreflects : (P.run handle turns).state.Headed ∧
      Reflects (commitsOf P turns) (P.run handle turns).state := by
    subst hP
    exact run_reflects hfresh.injective (sessionPool_safe svc.sessions hl calls hfresh) hl hheaded
      (.nil w) hturns
  refine ⟨hreturned c (by rw [hcommits]; simp), ?_⟩
  obtain ⟨s, hs⟩ := hreflects.2.stored c (by rw [hcommits]; simp)
  obtain ⟨newest, hnewest⟩ := hreflects.1 c.ref s hs
  refine ⟨newest, hnewest, ?_⟩
  rcases hreflects.2.shown before c after f v hcommits hown newest hnewest with
    hv | ⟨later, hmem, hlineage, hsome⟩
  · exact .inl hv
  · exact .inr ⟨later, hmem, hreturned later (by rw [hcommits]; simp [hmem]), hlineage, hsome⟩

end Schedules

section Fixture

open Fixture

/-- A handoff and a cart for the session in review. -/
def handoffAndAttach : Bool → SessionCall
  | true => .transition { sessionRef, target := .humanHandoff, idempotencyKey := "k6" }
  | false => .attach sessionRef (some "cart:fixture:one") none

def attachPool : SessionPool FakeXBOSOrderClient Bool :=
  sessionPool {} (run {} world intoReview) handoffAndAttach drawnRef

/-- One call after the other. -/
def inTurn : List (Turn Bool (World FakeXBOSOrderClient)) :=
  List.replicate 4 (.thread true) ++ List.replicate 2 (.thread false)

/-- The cart is read, the handoff runs, the cart is written. -/
def lateAttach : List (Turn Bool (World FakeXBOSOrderClient)) :=
  .thread false :: List.replicate 4 (.thread true) ++ [.thread false]

/-- The handoff's update. -/
def handoff : Commit Bool :=
  { client := true
    ref := sessionRef
    changes :=
      { state := some .humanHandoff, humanHandoffRef := some none, countsTransition := true } }

/-- The cart's update. -/
def cartAttached : Commit Bool := ⟨false, sessionRef, { cartRef := some "cart:fixture:one" }⟩

theorem updates_kept_inTurn :
    Returned (attachPool.run handle inTurn) handoff.client ∧
      ∃ newest, (attachPool.run handle inTurn).state.Newest handoff.ref newest ∧
        (SessionField.state.get newest = .state .humanHandoff ∨
          ∃ later ∈ [cartAttached], Returned (attachPool.run handle inTurn) later.client ∧
            (attachPool.run handle inTurn).state.Lineage later.ref newest.sessionRef ∧
            (SessionField.state.own later.changes).isSome = true) := by
  have hturns : attachPool.Admits handle KeepsUpdates World.SameSessions inTurn := by
    decide +kernel
  have hfinished : (attachPool.run handle inTurn).Finished := by decide +kernel
  have hcommits : commitsOf attachPool inTurn = [] ++ handoff :: [cartAttached] := by
    decide +kernel
  exact updates_kept ({} : OrderDraftConfirmationService) ({} : FakeXBOSOrderClient)
    (upstream 1 3000) lengthRefs intoReview rfl handoffAndAttach drawnRef_fresh rfl hturns
    hfinished hcommits rfl

/-- The cart's write puts back the state from before the handoff, which returned. -/
theorem lateAttach_loses :
    Returned (attachPool.run handle lateAttach) handoff.client ∧
      commitsOf attachPool lateAttach = [handoff, cartAttached] ∧
      (attachPool.run handle lateAttach).Finished ∧
      ¬ ∃ newest, (attachPool.run handle lateAttach).state.Newest handoff.ref newest ∧
        (SessionField.state.get newest = .state .humanHandoff ∨
          (SessionField.state.own cartAttached.changes).isSome = true) := by
  have hcommits : commitsOf attachPool lateAttach = [handoff, cartAttached] := by
    decide +kernel
  have hfinished : (attachPool.run handle lateAttach).Finished := by decide +kernel
  have hreview : ((attachPool.run handle lateAttach).state.sessions.sessions.entries.all
      fun e => e.2.state = .review) = true := by decide +kernel
  refine ⟨?_, hcommits, hfinished, ?_⟩
  · refine Pool.returned_of_neverRaises (neverRaises_of_mem_commitsOf (fun i => ?_) ?_) hfinished
    · exact (handoffAndAttach i).commitsBy {} (drawnRef i)
    · rw [hcommits]
      exact List.mem_cons_self
  · rintro ⟨newest, hnewest, hstate | hset⟩
    · have hmem := Dict.mem_entries_of_get? hnewest.stored
      have hnow := of_decide_eq_true (List.all_eq_true.mp hreview _ hmem)
      rw [show SessionField.state.get newest = .state newest.state from rfl, hnow] at hstate
      cases hstate
    · cases hset

end Fixture

end XbosCustomerChannel
