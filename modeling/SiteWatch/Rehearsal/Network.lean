/-
# Rehearsed networks

A network that follows a script: each address has its replies, of which the last is repeated. All that
is sent is noted, except what cannot be: only plain connections are part of a rehearsal.
-/

import SiteWatch.Web.Network

namespace SiteWatch.Rehearsal

/-- One scripted reply. -/
structure ScriptedReply where
  /-- The reply; absent if the peer hangs up. -/
  reply : Option WebReply := some { status := 200 }
  /-- How long it takes, in milliseconds. -/
  delayMs : Nat := 0
deriving Repr

/-- The replies of addresses. -/
abbrev NetworkScript := List (String × List ScriptedReply)

/-- The requests that were sent, in order. -/
structure NetworkLog where
  requests : List WebRequest := []

namespace NetworkScript

/-- The address under which a script looks for replies: fragments are never sent. -/
def keyOf (request : WebRequest) : String := { request.url with fragment := none }.text

/-- The reply to the next request for an address. What the script does not name is not there. -/
def replyTo (script : NetworkScript) (asked : Nat) (key : String) : ScriptedReply :=
  match script.lookup key with
  | none => { reply := some { status := 404 } }
  | some replies => (replies[asked]?.or replies.getLast?).getD { reply := none }

/-- The scripted network. -/
def network (script : NetworkScript) : Network NetworkLog where
  exchange request :=
    if request.url.scheme == "https" then .done none
    else
      (Activity.step fun (log : NetworkLog) =>
        ((log.requests.filter (keyOf · == keyOf request)).length,
          ⟨log.requests ++ [request]⟩)).bind fun asked =>
        let scripted := script.replyTo asked (keyOf request)
        if scripted.delayMs = 0 then .done scripted.reply
        else (Activity.sleep scripted.delayMs).bind fun _ => .done scripted.reply

end NetworkScript

end SiteWatch.Rehearsal
