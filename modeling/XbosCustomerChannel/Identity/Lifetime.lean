import Mathlib.Data.List.Induction
import XbosCustomerChannel.Identity.Service
import XbosCustomerChannel.Session.Chain

/-!
# Sessions and the proof of who the subject is

Runs in which the session service resolves its bindings in the store that the identity service
issues them into. A session ends no later than the binding it was created with, and a binding no
later than the resolution of its subject; a rotation hands the session's end on.
-/

namespace XbosCustomerChannel

open Effects Data

/-! ## What a call leaves of the bonds -/

section Bonds

variable {π : Type}

open CustomerSessionService (Bound BoundTo)

theorem CustomerSessionService.BoundTo.of_bond {s s' : CustomerSessionSnapshot} {binding : IdentityBindingRecord}
    (h : BoundTo s binding) (hbond : s'.bond = s.bond) : BoundTo s' binding := by
  have howner : s'.ownerIdentityRef = s.ownerIdentityRef := congrArg SessionBond.ownerIdentityRef hbond
  have hconversation : s'.conversationRef = s.conversationRef :=
    congrArg SessionBond.conversationRef hbond
  have hcontext : s'.boundContext = s.boundContext := congrArg SessionBond.context hbond
  have hpurpose : s'.entryPurpose = s.entryPurpose := congrArg BoundContext.purpose hcontext
  have hexpires : s'.expiresAtEpoch = s.expiresAtEpoch := congrArg SessionBond.expiresAtEpoch hbond
  exact ⟨howner.trans h.owner, hconversation.trans h.conversation, by
    rw [hcontext, hpurpose, h.context], by rw [hexpires]; exact h.expires⟩

/-- A secure session has the bond of one of `w`, or the bond of a binding that was resolved. -/
def BondFrom (w : World π) (ops : List (Channel.Op × World π)) (s : CustomerSessionSnapshot) : Prop :=
  (∃ key s₀, w.sessions.sessions.get? key = some s₀ ∧ s.bond = s₀.bond) ∨ Bound ops s

theorem BondFrom.of_bond {w : World π} {ops ops' : List (Channel.Op × World π)}
    {s s' : CustomerSessionSnapshot} (h : BondFrom w ops s) (hbond : s'.bond = s.bond) :
    BondFrom w (ops ++ ops') s' := by
  rcases h with ⟨key, s₀, hs₀, hsame⟩ | ⟨ref, w₁, binding, hmem, hresolved, hbound⟩
  · exact .inl ⟨key, s₀, hs₀, hbond.trans hsame⟩
  · exact .inr ⟨ref, w₁, binding, List.mem_append_left _ hmem, hresolved, hbound.of_bond hbond⟩

theorem survives_bondFrom (w : World π) :
    Survives fun T (w' : World π) => w'.Keyed ∧ ∀ key s, w'.sessions.sessions.get? key = some s →
      s.securityBindingComplete = true → BondFrom w T s where
  keyed _ _ h := h.1
  effect T ops v v' := by
    rintro ⟨-, h⟩ heff hk'
    refine ⟨hk', fun key s' hs' hsecure => ?_⟩
    have hold {key : String} {s : CustomerSessionSnapshot}
        (hs : v.sessions.sessions.get? key = some s) (hbond : s'.bond = s.bond) :
        BondFrom w (T ++ ops) s' := by
      refine (h key s hs ?_).of_bond hbond
      rw [← hsecure]
      exact (congrArg SessionBond.securityBindingComplete hbond).symm
    cases heff.storedAfter hs' with
    | same hs => exact hold hs rfl
    | changed hstored _ => exact hold hstored rfl
    | rotatedOut hstored _ _ => exact hold hstored rfl
    | successor hstored _ _ _ => exact hold hstored rfl
    | created _ _ hbound =>
        obtain ⟨ref, w₁, binding, hmem, hresolved, hboundTo⟩ := hbound hsecure
        exact .inr ⟨ref, w₁, binding, List.mem_append_right _ hmem, hresolved, hboundTo⟩

variable [XBOSOrderPort π] [Hashlib] (svc : OrderDraftConfirmationService)

/-- After a call, a secure session has the bond of one from before it, or that of a binding as XBOS
resolved it. -/
theorem step_bond {w : World π} (hk : w.Keyed) (call : ChannelCall π) {key : String}
    {s : CustomerSessionSnapshot} (hs : (step svc w call).sessions.sessions.get? key = some s)
    (hsecure : s.securityBindingComplete = true) :
    (∃ key s₀, w.sessions.sessions.get? key = some s₀ ∧ s.bond = s₀.bond) ∨
      ∃ ref binding, w.upstream.resolveBinding ref = some binding ∧ BoundTo s binding := by
  have hcall := ((survives_bondFrom w).of_call svc (T := [])
    ⟨hk, fun key s hs _ => .inl ⟨key, s, hs, rfl⟩⟩ call).2 key s hs hsecure
  rcases hcall with hold | ⟨ref, w₁, binding, hmem, hresolved, hbound⟩
  · exact .inl hold
  refine .inr ⟨ref, binding, ?_, hbound⟩
  rw [List.nil_append] at hmem
  -- while a call runs, XBOS does not change its answers
  have hupstream : w₁.upstream = (call.change w).upstream :=
    issued_preserves handle (R := fun v v' : World π => v'.upstream = v.upstream) (fun _ => rfl)
      (fun _ _ _ h h' => h'.trans h) (fun op v _ => handle_upstream op v) (Program.Uses.all _) hmem
  rw [hupstream] at hresolved
  cases call with
  | upstreamChanges upstream => cases hmem
  | _ => exact hresolved

end Bonds

/-! ## Runs with an identity service -/

/-- The channel's world beside the desk that issues identity bindings. -/
structure IdentityWorld (ι π : Type) where
  channel : World π
  desk : IdentityDesk ι

/-- Bindings are resolved in the store of the desk. -/
def IdentityWorld.wired {ι π : Type} (s : IdentityWorld ι π) : IdentityWorld ι π :=
  { s with
    channel :=
      { s.channel with
        upstream :=
          { s.channel.upstream with resolveBinding := s.desk.bindings.resolveBinding } } }

inductive IdentityCall (ι π : Type) [CustomerIdentityPort ι] [XBOSOrderPort π]
  | channel (call : ChannelCall π)
  | issueSessionIdentityBinding (args : IssueBindingArgs)
  | identityPortChanges (event : CustomerIdentityPort.Event ι)

namespace IdentityWorld

variable {ι π : Type} [CustomerIdentityPort ι] [XBOSOrderPort π] [Hashlib] [Hmac]
variable (svc : OrderDraftConfirmationService) (ids : ChannelIdentityService)

/-- One entry of a run. -/
def step (s : IdentityWorld ι π) : IdentityCall ι π → IdentityWorld ι π
  | .channel call => wired { s with channel := XbosCustomerChannel.step svc s.channel call }
  | .issueSessionIdentityBinding args =>
      wired { s with
        desk := (exec IdentityDesk.handle (ids.issueSessionIdentityBinding args) s.desk).2 }
  | .identityPortChanges event =>
      { s with desk := { s.desk with port := CustomerIdentityPort.occur event s.desk.port } }

def run (s : IdentityWorld ι π) (calls : List (IdentityCall ι π)) : IdentityWorld ι π :=
  calls.foldl (step svc ids) s

/-- Fresh stores in front of an order port and an identity port. -/
def start (orders : π) (upstream : Upstream) (refs : RefSource) (port : ι) : IdentityWorld ι π :=
  wired { channel := World.start orders upstream refs, desk := { port, refs } }

theorem run_concat (s : IdentityWorld ι π) (calls : List (IdentityCall ι π))
    (call : IdentityCall ι π) :
    run svc ids s (calls ++ [call]) = step svc ids (run svc ids s calls) call := by
  simp [run]

theorem run_append (s : IdentityWorld ι π) (calls calls' : List (IdentityCall ι π)) :
    run svc ids s (calls ++ calls') = run svc ids (run svc ids s calls) calls' :=
  List.foldl_append

/-! ## Sessions along a run -/

omit [CustomerIdentityPort ι] [XBOSOrderPort π] [Hashlib] [Hmac] in
theorem chained_wired {s : IdentityWorld ι π} (h : s.channel.Chained) : s.wired.channel.Chained :=
  ⟨h.keyed, h.predecessor, h.successor⟩

theorem step_chained {s : IdentityWorld ι π} (h : s.channel.Chained) (call : IdentityCall ι π) :
    (step svc ids s call).channel.Chained := by
  cases call with
  | channel call => exact chained_wired (XbosCustomerChannel.step_chained svc h call)
  | issueSessionIdentityBinding args => exact chained_wired h
  | identityPortChanges event => exact h

theorem run_continues {s : IdentityWorld ι π} (h : s.channel.Chained) {key : String}
    {snapshot : CustomerSessionSnapshot}
    (hs : s.channel.sessions.sessions.get? key = some snapshot) (calls : List (IdentityCall ι π)) :
    ∃ later, (run svc ids s calls).channel.sessions.sessions.get? key = some later ∧
      snapshot.Continues later := by
  induction calls generalizing s snapshot with
  | nil => exact ⟨snapshot, hs, .refl snapshot⟩
  | cons call calls ih =>
      have hstep : ∃ next, (step svc ids s call).channel.sessions.sessions.get? key = some next ∧
          snapshot.Continues next := by
        cases call with
        | channel call => exact XbosCustomerChannel.run_continues svc h.keyed hs [call]
        | issueSessionIdentityBinding args => exact ⟨snapshot, hs, .refl snapshot⟩
        | identityPortChanges event => exact ⟨snapshot, hs, .refl snapshot⟩
      obtain ⟨next, hnext, hcontinues⟩ := hstep
      obtain ⟨later, hlater, hcontinues'⟩ := ih (step_chained svc ids h call) hnext
      exact ⟨later, hlater, hcontinues.trans hcontinues'⟩

/-! ## Bindings along a run -/

/-- A call of the run issued the binding, on a resolution of the subject that outlasts it. -/
def IssuedBy (s₀ : IdentityWorld ι π) (calls : List (IdentityCall ι π))
    (binding : IdentityBindingRecord) : Prop :=
  ∃ before args after resolution, calls = before ++ .issueSessionIdentityBinding args :: after ∧
    args.resolution (run svc ids s₀ before).desk = .ok resolution ∧
    (exec IdentityDesk.handle (ids.issueSessionIdentityBinding args)
      (run svc ids s₀ before).desk).1 = .ok binding ∧
    binding.expiresAtEpoch ≤ resolution.expiresAtEpoch

theorem IssuedBy.concat {s₀ : IdentityWorld ι π} {calls : List (IdentityCall ι π)}
    {binding : IdentityBindingRecord} (h : IssuedBy svc ids s₀ calls binding)
    (call : IdentityCall ι π) : IssuedBy svc ids s₀ (calls ++ [call]) binding := by
  obtain ⟨before, args, after, resolution, rfl, h⟩ := h
  exact ⟨before, args, after ++ [call], resolution, by simp, h⟩

/-- Every binding was issued by a call, and every secure session is bound to one. -/
structure Attested (s₀ : IdentityWorld ι π) (calls : List (IdentityCall ι π))
    (s : IdentityWorld ι π) : Prop where
  chained : s.channel.Chained
  wired : s.channel.upstream.resolveBinding = s.desk.bindings.resolveBinding
  issued : ∀ ref binding, s.desk.bindings.resolveBinding ref = some binding →
    IssuedBy svc ids s₀ calls binding
  sessions : ∀ key snapshot, s.channel.sessions.sessions.get? key = some snapshot →
    snapshot.securityBindingComplete = true →
      ∃ ref binding, s.desk.bindings.resolveBinding ref = some binding ∧
        CustomerSessionService.BoundTo snapshot binding

theorem Attested.channel {s₀ s : IdentityWorld ι π} {calls : List (IdentityCall ι π)}
    (h : Attested svc ids s₀ calls s) (call : ChannelCall π) :
    Attested svc ids s₀ (calls ++ [.channel call]) (step svc ids s (.channel call)) where
  chained := step_chained svc ids h.chained _
  wired := rfl
  issued ref binding hb := (h.issued ref binding hb).concat svc ids _
  sessions key snapshot hs hsecure := by
    rcases step_bond svc h.chained.keyed call hs hsecure with
      ⟨key₀, snapshot₀, hs₀, hbond⟩ | ⟨ref, binding, hresolved, hbound⟩
    · have hsecure₀ : snapshot₀.securityBindingComplete = true := by
        rw [← hsecure]
        exact (congrArg SessionBond.securityBindingComplete hbond).symm
      obtain ⟨ref, binding, hresolved, hbound⟩ := h.sessions key₀ snapshot₀ hs₀ hsecure₀
      exact ⟨ref, binding, hresolved, hbound.of_bond hbond⟩
    · rw [h.wired] at hresolved
      exact ⟨ref, binding, hresolved, hbound⟩

theorem Attested.issueSessionIdentityBinding {s₀ : IdentityWorld ι π}
    {calls : List (IdentityCall ι π)} (h : Attested svc ids s₀ calls (run svc ids s₀ calls))
    (args : IssueBindingArgs) :
    Attested svc ids s₀ (calls ++ [.issueSessionIdentityBinding args])
      (step svc ids (run svc ids s₀ calls) (.issueSessionIdentityBinding args)) := by
  have hcases := ids.issueSessionIdentityBinding_cases args (run svc ids s₀ calls).desk
  refine ⟨step_chained svc ids h.chained _, rfl, fun ref binding hb => ?_,
    fun key snapshot hs hsecure => ?_⟩
  · change (exec IdentityDesk.handle (ids.issueSessionIdentityBinding args)
      (run svc ids s₀ calls).desk).2.bindings.records.get? ref = some binding at hb
    rcases hcases with
      ⟨resolution, identity, record, port, hresolution, hexpires, hterms, -, hexec⟩ |
        ⟨e, port, hexec⟩
    · rw [hexec, Dict.get?_set] at hb
      split at hb
      · -- the binding just issued
        obtain rfl := Option.some.inj hb
        refine ⟨calls, args, [], resolution, rfl, hresolution, by rw [hexec], ?_⟩
        rw [hterms]
        exact hexpires
      · exact (h.issued ref binding hb).concat svc ids _
    · rw [hexec] at hb
      exact (h.issued ref binding hb).concat svc ids _
  · obtain ⟨ref, binding, hresolved, hbound⟩ := h.sessions key snapshot hs hsecure
    refine ⟨ref, binding, ?_, hbound⟩
    change (exec IdentityDesk.handle (ids.issueSessionIdentityBinding args)
      (run svc ids s₀ calls).desk).2.bindings.records.get? ref = some binding
    rcases hcases with ⟨resolution, identity, record, port, -, -, -, hfresh, hexec⟩ | ⟨e, port, hexec⟩
    · have hne : ref ≠ (run svc ids s₀ calls).desk.bindings.newBindingRef
          (run svc ids s₀ calls).desk.refs := by
        rintro rfl
        rw [hfresh] at hresolved
        cases hresolved
      rw [hexec, Dict.get?_set_of_ne _ hne]
      exact hresolved
    · rw [hexec]
      exact hresolved

variable (orders : π) (upstream : Upstream) (refs : RefSource) (port : ι)

theorem run_attested (calls : List (IdentityCall ι π)) :
    Attested svc ids (start orders upstream refs port) calls
      (run svc ids (start orders upstream refs port) calls) := by
  induction calls using List.reverseRecOn with
  | nil =>
      exact ⟨chained_wired (start_chained orders upstream refs), rfl, fun _ _ hb => (by cases hb),
        fun _ _ hs => (by cases hs)⟩
  | append_singleton calls call ih =>
      rw [run_concat]
      cases call with
      | channel call => exact ih.channel svc ids call
      | issueSessionIdentityBinding args => exact ih.issueSessionIdentityBinding svc ids args
      | identityPortChanges event =>
          exact ⟨ih.chained, ih.wired, fun ref binding hb => (ih.issued ref binding hb).concat svc ids _,
            ih.sessions⟩

/-- Along every run: a session that is validated is bound to an identity binding that a call of the
run issued, on a resolution of the subject that has not expired; and of a session and any that it is
rotated into from then on, neither ends after the other. -/
theorem validated_attested (calls : List (IdentityCall ι π)) :
    (∀ sessionRef now s,
      (exec handle (svc.sessions.validateActiveSession sessionRef now)
        (run svc ids (start orders upstream refs port) calls).channel).1 = .ok s →
      ∃ before args after binding resolution,
        calls = before ++ .issueSessionIdentityBinding args :: after ∧
        (exec IdentityDesk.handle (ids.issueSessionIdentityBinding args)
          (run svc ids (start orders upstream refs port) before).desk).1 = .ok binding ∧
        s.ownerIdentityRef = some binding.identityRef ∧
        s.conversationRef = binding.conversationRef ∧
        s.boundContext = binding.boundContext s.entryPurpose ∧
        args.resolution (run svc ids (start orders upstream refs port) before).desk =
          .ok resolution ∧
        now < resolution.expiresAtEpoch) ∧
    ∀ before after, calls = before ++ after → ∀ a b s t,
      (run svc ids (start orders upstream refs port) before).channel.sessions.sessions.get? a =
        some s →
      (run svc ids (start orders upstream refs port) calls).channel.Lineage a b →
      (run svc ids (start orders upstream refs port) calls).channel.sessions.sessions.get? b =
        some t →
      t.expiresAtEpoch = s.expiresAtEpoch := by
  have h := run_attested svc ids orders upstream refs port calls
  refine ⟨fun sessionRef now s hvalid => ?_, fun before after hcalls a b s t hs hab ht => ?_⟩
  · rcases svc.sessions.validateActiveSession_cases sessionRef now
        (run svc ids (start orders upstream refs port) calls).channel with
      ⟨s', hget, hactive, hexec⟩ | ⟨-, e, hexec⟩
    · rw [hexec] at hvalid
      obtain rfl := Except.ok.inj hvalid
      obtain ⟨ref, binding, hresolved, hbound⟩ := h.sessions _ s' hget hactive.secure
      obtain ⟨before, args, after, resolution, hcalls, hresolution, hissued, hexpires⟩ :=
        h.issued ref binding hresolved
      refine ⟨before, args, after, binding, resolution, hcalls, hissued, hbound.owner,
        hbound.conversation, hbound.context, hresolution, ?_⟩
      -- now < the session's end ≤ the binding's ≤ the resolution's
      obtain ⟨ends, hends, hle⟩ := hbound.expires
      have hlt := hactive.unexpired
      simp only [CustomerSessionSnapshot.expiredAt, hends, decide_eq_false_iff_not] at hlt
      omega
    · rw [hexec] at hvalid
      cases hvalid
  · have hchained := (run_attested svc ids orders upstream refs port before).chained
    obtain ⟨s', hs', hcontinues⟩ := run_continues svc ids hchained hs after
    rw [← run_append, ← hcalls] at hs'
    have hbond : t.bond = s'.bond := by
      rcases Relation.reflTransGen_iff_eq_or_transGen.mp hab with rfl | hab
      · rw [Option.some.inj (hs'.symm.trans ht)]
      · obtain ⟨p, q, hp, hq, -, hsame⟩ := h.chained.transGen hab
        obtain rfl := Option.some.inj (hs'.symm.trans hp)
        obtain rfl := Option.some.inj (ht.symm.trans hq)
        exact hsame
    exact congrArg SessionBond.expiresAtEpoch (hbond.trans hcontinues.bond)

end IdentityWorld

end XbosCustomerChannel
