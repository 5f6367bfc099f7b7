import Deliberation.Http.Answer
import Deliberation.Http.Request
/-! Redirects: answers that lead to another place, and the requests that follow them there. The number
of redirects that are followed is limited. -/

namespace Deliberation.Http

def mostRedirects : Nat :=
  10

inductive RedirectFault where
  /-- It leads to what is no URL. -/
  | unreadable
  /-- It leads to a URL to which no request can go. -/
  | unusable (url : String)
  /-- It is one too many. The URL is the one that it leads away from. -/
  | endless (url : String)
deriving DecidableEq, Repr

/-- Whether the content of a request goes along, for a status of answers that lead elsewhere. -/
def keepsContent? (status : UInt16) : Option Bool :=
  if status = 301 ∨ status = 302 ∨ status = 303 then some false
  else if status = 307 ∨ status = 308 then some true
  else none

def longestIdentifier : Nat :=
  65534

def longestScheme : Nat :=
  64

/-- The greatest number of colons in a row of an authority, where brackets and at signs end a row. -/
def mostColons : Nat :=
  8

/-- Whether an authority can be asked, given the colons in its row and whether there are escapes. Only
what stands before an at sign may have them, and one colon at most is that of a service. -/
def isAskableAfter (colons : Nat) (escaped : Bool) : List Char → Bool
  | [] => colons ≤ 1 && !escaped
  | c :: rest =>
    if c = ':' then colons < mostColons && isAskableAfter (colons + 1) escaped rest
    else if c = '@' ∨ c = ']' then isAskableAfter 0 false rest
    else isAskableAfter colons (escaped || c = '%') rest

def isAskable (authority : List Char) : Bool :=
  authority.getLast? != some '@' && isAskableAfter 0 false authority

/-- Whether a request can ask for an identifier: one with an authority, or one that reads as an
authority alone. -/
def canAsk (place : Url.Reference) : Bool :=
  place.text.length ≤ longestIdentifier && match place.scheme, place.authority with
    | some scheme, some authority =>
      scheme.length ≤ longestScheme && authority ≠ [] && isAskable authority
    | some _, none => !(place.text.any fun c => c = '/' || Url.endsPath c) && isAskable place.text
    | none, _ => false

def Request.place? (r : Request) (answer : Answer) : Option Url.Reference := do
  let location ← (values answer.headers "location").head?
  let reference ← Url.Reference.parse? location
  let base ← Url.Reference.parse? r.identifier.toList
  let place := base.resolve reference
  if canAsk place then some place.asked else none

/-- Whether credentials may go along to a URL: it has the same host and service. -/
def Request.isAt (r : Request) (url : Url) : Bool :=
  url.host = r.url.host && url.serviceNumber == r.url.serviceNumber

def Request.movedTo (r : Request) (place : Url.Reference) (url : Url) (keepsContent : Bool) :
    Request where
  url := url
  origin := String.ofList { place with tail := ⟨[], none, none⟩ }.text
  target := String.ofList place.tail.target
  authorization := if r.isAt url then r.authorization else []
  content := if keepsContent then r.content else none

inductive Sequel where
  | settled (exchange : Exchange)
  | refused (fault : RedirectFault)
  | next (request : Request)

/-- What follows on the exchange of a request, where some redirects are left. -/
def Request.sequel (r : Request) (left : Nat) (exchange : Exchange) : Sequel :=
  match exchange with
  | .dropped => .settled .dropped
  | .hung => .settled .hung
  | .answered answer =>
    match keepsContent? answer.status, r.place? answer with
    | some keepsContent, some place =>
      match Url.parse? (String.ofList place.text) with
      | none => .refused .unreadable
      | some url =>
        if left = 0 then .refused (.endless r.url.withoutFragment.text)
        else if url.scheme ≠ "http" ∧ url.scheme ≠ "https" then .refused (.unusable url.text)
        else if place.authority.isNone then .settled .dropped
        else .next (r.movedTo place url keepsContent)
    | _, _ => .settled (.answered answer)

theorem Request.left_pos_of_sequel_eq_next {r next : Request} {left : Nat} {exchange : Exchange}
    (h : r.sequel left exchange = .next next) : 0 < left := by
  unfold Request.sequel at h
  split at h
  · simp at h
  · simp at h
  · split at h
    · split at h
      · simp at h
      · split at h
        · simp at h
        · omega
    · simp at h

/-- Sends a request, and then those to which redirects lead. Gives the exchange at their end. -/
def followWith {m : Type → Type} [Monad m] (send : Request → m Exchange) (left : Nat) (r : Request) :
    m (Except RedirectFault Exchange) := do
  let exchange ← send r
  match _h : r.sequel left exchange with
  | .settled exchange => return .ok exchange
  | .refused fault => return .error fault
  | .next request => followWith send (left - 1) request
termination_by left
decreasing_by
  have := Request.left_pos_of_sequel_eq_next _h
  omega

def follow {σ : Type} (network : σ → Request → Exchange × σ) (left : Nat) (r : Request) (state : σ) :
    Except RedirectFault Exchange × σ :=
  (followWith (m := StateM σ) (fun request state => network state request) left r).run state

end Deliberation.Http
