import XbosCustomerChannel.Data.OrderedDict
import XbosCustomerChannel.Data.Url
import XbosCustomerChannel.Errors

/-!
# Entry links

Only preconfigured trusted base URLs can be built on. A base with a query or a fragment is refused,
by what `urlparse` finds of them.
-/

namespace XbosCustomerChannel

open Data

/-- What `urlparse` has against a network location: brackets with no IP address between them, or
characters that separate once they are normalized. -/
class NetlocChecking where
  refusal : List Char → Option String

inductive EntryTarget
  | whatsapp
  | customerWeb
  deriving DecidableEq, Repr

def EntryTarget.value : EntryTarget → String
  | whatsapp => "whatsapp"
  | customerWeb => "customer_web"

/-- `urllib.parse.urlparse`. -/
def urlparse [NetlocChecking] (url : String) : Except Exc Url.ParseResult :=
  match Url.urlparse NetlocChecking.refusal url.toList with
  | .ok parsed => .ok parsed
  | .error msg => .error ⟨.valueError, msg⟩

structure EntryLinkBuilder where
  bases : OrderedDict EntryTarget String

namespace EntryLinkBuilder

/-- The constructor's loop body for one base: what is kept of it. -/
def trusted [NetlocChecking] (base : String) : Except Exc String := do
  let parsed ← urlparse base
  if parsed.scheme ≠ "https".toList ∨ parsed.netloc = [] then
    .error ⟨.valueError, "untrusted_entry_base"⟩
  else if parsed.query ≠ [] ∨ parsed.fragment ≠ [] then
    .error ⟨.valueError, "entry_base_must_not_contain_query_or_fragment"⟩
  else .ok (String.ofList (Text.rstrip '?' base.toList))

/-- The constructor. -/
def create [NetlocChecking] (trustedBases : OrderedDict EntryTarget String) :
    Except Exc EntryLinkBuilder :=
  if ¬ ((trustedBases.get? .whatsapp).isSome ∧ (trustedBases.get? .customerWeb).isSome) then
    .error ⟨.valueError, "both_channel_entry_targets_required"⟩
  else do
    let bases ← trustedBases.entries.foldlM (fun bases item => do
      let base ← trusted item.2
      pure (OrderedDict.set bases item.1 base)) OrderedDict.empty
    pure ⟨bases⟩

def build (links : EntryLinkBuilder) (target : EntryTarget) (publicToken : String) :
    Except Exc String :=
  match links.bases.get? target with
  | none => .error ⟨.keyError, target.value⟩
  | some base =>
      let separator := if '?' ∈ base.toList then "&" else "?"
      .ok (base ++ separator ++
        String.ofList (Url.urlencode "entry_token".toList publicToken.toList))

end EntryLinkBuilder

end XbosCustomerChannel
