/-
# The network

Requests to web addresses and what becomes of them. A network is given by its single exchanges; what
follows redirects, sets deadlines and tells failures apart stands on top of these, and so is the same
for every network, scripted or out of reach.
-/

import SiteWatch.Activity
import SiteWatch.Json.Basic
import SiteWatch.Url.Parse

namespace SiteWatch

inductive WebMethod where
  | get
  | post
deriving DecidableEq, Repr, Inhabited

/-- A request to a web address. -/
structure WebRequest where
  method : WebMethod := .get
  url : Url
  /-- Who asks. -/
  agent : String
  /-- The document that is sent along. -/
  body : Option Json := none
deriving Repr

/-- The reply to a request. -/
structure WebReply where
  status : Nat
  /-- Where to look instead. -/
  location : Option String := none
  /-- The text of the reply; absent if it breaks off. -/
  body : Option String := some ""
deriving DecidableEq, Repr

/-- A network, over a state `ν`. -/
structure Network (ν : Type) where
  /-- Send one request. No reply if the peer cannot be reached or hangs up. -/
  exchange : WebRequest → Activity ν (Option WebReply)

/-- The network of a computer that is cut off. -/
def Network.unreachable {ν : Type} : Network ν := ⟨fun _ => .done none⟩

/-- Why there is no reply, or none that can be read. -/
inductive FetchFault where
  /-- There is nothing to be asked at the address, which may not even be one. -/
  | unusable (url : Option Url)
  | unanswered (url : Url)
  /-- The reply did not come in time. -/
  | late (url : Url)
  /-- One redirect led to another too often. -/
  | astray (url : Url)
  /-- The text of the reply breaks off. -/
  | unreadable (url : Url)
deriving DecidableEq, Repr

namespace FetchFault

/-- What went wrong, in words. -/
def message : FetchFault → String
  | unusable none => "builder error"
  | unusable (some url) => s!"builder error for url ({url.text})"
  | unanswered url | late url => s!"error sending request for url ({url.text})"
  | astray url => s!"error following redirect for url ({url.text})"
  | unreadable url => s!"error decoding response body for url ({url.text})"

end FetchFault

/-- Work on the network. -/
abbrev Fetching (ν : Type) := ExceptT FetchFault (Activity ν)

namespace WebReply

/-- Whether a reply is what was asked for. -/
def isSuccess (reply : WebReply) : Bool := 200 ≤ reply.status && reply.status < 300

/-- Whether the asking side is to blame. -/
def blamesRequest (reply : WebReply) : Bool := 400 ≤ reply.status && reply.status < 500

end WebReply

namespace WebRequest

/-- Whether a text can stand in the head of a request. -/
def isHeadText (text : String) : Bool :=
  text.toList.all fun c => c = '\t' || (32 ≤ c.toNat && c.toNat ≠ 127)

/-- The request to an address that is known already. It is sent without user and password. -/
def ofUrl (method : WebMethod) (url : Url) (agent : String) (body : Option Json := none) :
    Except FetchFault WebRequest :=
  let url := url.withoutCredentials
  if url.hostText?.isNone then .error (.unusable (some url))
  else if !isHeadText agent then .error (.unusable none)
  else if url.isWeb then .ok { method, url, agent, body }
  else .error (.unusable (some url))

/-- The request to the address that a text spells. -/
def ofAddress (method : WebMethod) (address agent : String) (body : Option Json := none) :
    Except FetchFault WebRequest :=
  match Url.parse address with
  | .error _ => .error (.unusable none)
  | .ok url => ofUrl method url agent body

/-- The request that a reply asks for instead. The old ways to redirect turn every request into a
plain question; the newer ones keep it as it is. -/
def redirected? (request : WebRequest) (reply : WebReply) : Option WebRequest := do
  let location ← reply.location
  let url ← (request.url.join location).toOption
  if [301, 302, 303].contains reply.status then some { request with method := .get, url, body := none }
  else if [307, 308].contains reply.status then some { request with url }
  else none

end WebRequest

namespace Network

variable {ν : Type}

/-- How many redirects are followed. -/
def maxRedirects : Nat := 10

/-- Send a request and follow its redirects, as many as are left. The answer is the last reply and
the address that it came from. -/
def follow (network : Network ν) (left : Nat) (request : WebRequest) : Fetching ν (Url × WebReply) := do
  match ← ExceptT.lift (network.exchange request) with
  | none => throw (.unanswered request.url)
  | some reply =>
    match request.redirected? reply with
    | none => return (request.url, reply)
    | some next =>
      match left with
      | 0 => throw (.astray request.url)
      | left + 1 =>
        if next.url.isWeb then network.follow left next else throw (.unusable (some next.url))

/-- Send a request under a deadline in milliseconds. -/
def send (network : Network ν) (limitMs : Nat) (request : WebRequest) : Fetching ν (Url × WebReply) :=
  ExceptT.mk (Activity.orLate (.error (.late request.url)) limitMs
    (network.follow maxRedirects request).run)

/-- Ask for the document at an address that is known already. -/
def askUrl (network : Network ν) (limitMs : Nat) (agent : String) (url : Url) :
    Fetching ν (Url × WebReply) := do
  network.send limitMs (← ExceptT.mk (.done (WebRequest.ofUrl .get url agent)))

/-- Ask for the document at an address. -/
def ask (network : Network ν) (limitMs : Nat) (agent address : String) :
    Fetching ν (Url × WebReply) := do
  network.send limitMs (← ExceptT.mk (.done (WebRequest.ofAddress .get address agent)))

/-- Send a document to an address. -/
def post (network : Network ν) (limitMs : Nat) (agent address : String) (body : Json) :
    Fetching ν (Url × WebReply) := do
  network.send limitMs (← ExceptT.mk (.done (WebRequest.ofAddress .post address agent (some body))))

end Network

end SiteWatch
