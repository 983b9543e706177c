import Mathlib.Init

/-!
# Exceptions

An exception is its class and its message. Handlers catch by class, so the classes carry the part
of Python's hierarchy that an `except` clause of the channel can see (`ExcClass.isA`).
-/

namespace XbosCustomerChannel

/-- The exception classes the modelled code raises or catches. -/
inductive ExcClass
  | keyError
  | valueError
  | permissionError
  | runtimeError
  | timeoutError
  | assertionError
  | typeError
  | invalidChannelTransition
  | authoritativeEvidenceRequired
  | sessionReconciliationRequired
  | sessionSecurityRequired
  | orderConfirmationRejected
  | orderSubmissionConflict
  | orderTransportUnknown
  | orderSubmissionUnknown
  | serviceModeUnavailable
  | provenanceConflict
  | reconfirmationRequired
  | quoteUnavailable
  | explicitLifecycleConfirmationRequired
  | lifecycleAuthorityMismatch
  | lifecycleRequestConflict
  | paymentRequestAuthorityMismatch
  | invalidEntryToken
  | entryContextRejected
  | metaProviderError
  | metaRateLimitError
  | missingWebhookSignature
  | invalidWebhookSignature
  | providerPayloadRejected
  | identityCollisionError
  | subjectEvidenceError
  | consentIdempotencyConflict
  | explicitConfirmationRequired
  /-- Any other exception a port may let through. -/
  | other (name : String)
  deriving DecidableEq, Repr

namespace ExcClass

/-- The built-in class a channel exception derives from. -/
def base : ExcClass → Option ExcClass
  | invalidChannelTransition => some valueError
  | authoritativeEvidenceRequired => some permissionError
  | sessionReconciliationRequired => some runtimeError
  | sessionSecurityRequired => some permissionError
  | orderConfirmationRejected => some runtimeError
  | orderSubmissionConflict => some runtimeError
  | orderTransportUnknown => some timeoutError
  | orderSubmissionUnknown => some runtimeError
  | serviceModeUnavailable => some permissionError
  | provenanceConflict => some runtimeError
  | reconfirmationRequired => some runtimeError
  | quoteUnavailable => some runtimeError
  | explicitLifecycleConfirmationRequired => some valueError
  | lifecycleAuthorityMismatch => some permissionError
  | lifecycleRequestConflict => some runtimeError
  | paymentRequestAuthorityMismatch => some permissionError
  | invalidEntryToken => some valueError
  | entryContextRejected => some permissionError
  | metaProviderError => some runtimeError
  | metaRateLimitError => some metaProviderError
  | missingWebhookSignature => some valueError
  | invalidWebhookSignature => some valueError
  | providerPayloadRejected => some valueError
  | identityCollisionError => some permissionError
  | subjectEvidenceError => some permissionError
  | consentIdempotencyConflict => some valueError
  | explicitConfirmationRequired => some valueError
  | _ => none

/-- `issubclass`. -/
def isA (c d : ExcClass) : Bool := c == d || c.base == some d

end ExcClass

/-- A raised exception. -/
structure Exc where
  cls : ExcClass
  msg : String
  deriving DecidableEq, Repr

namespace Exc

/-- Whether `except (classes)` catches the exception. -/
def caughtBy (e : Exc) (classes : List ExcClass) : Bool := classes.any e.cls.isA

/-- `str(exc)`; a `KeyError` shows its key quoted. -/
def str (e : Exc) : String :=
  if e.cls = .keyError then "'" ++ e.msg ++ "'" else e.msg

end Exc

theorem exists_ok_of_isOk {α : Type} {r : Except Exc α} (h : r.isOk = true) : ∃ a, r = .ok a := by
  cases r with
  | ok a => exact ⟨a, rfl⟩
  | error e => cases h

theorem ok_of_toOption {α : Type} {r : Except Exc α} {a : α} (h : r.toOption = some a) :
    r = .ok a := by
  cases r with
  | ok a' => exact congrArg Except.ok (Option.some.inj h)
  | error e => cases h

/-- Whether an optional reference is absent or the empty string, Python's `not ref`. -/
def falsy (ref : Option String) : Bool := ref.getD "" == ""

/-- Python's `a or b` on optional references. -/
def pyOr (a b : Option String) : Option String := if falsy a then b else a

@[simp] theorem pyOr_none (b : Option String) : pyOr none b = b := rfl

theorem pyOr_of_falsy {a : Option String} (h : falsy a = true) (b : Option String) :
    pyOr a b = b := by
  simp [pyOr, h]

theorem pyOr_of_not_falsy {a : Option String} (h : falsy a = false) (b : Option String) :
    pyOr a b = a := by
  simp [pyOr, h]

end XbosCustomerChannel
