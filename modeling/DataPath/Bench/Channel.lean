import DataPath.Answer

/-!
# A channel on the bench

The receiving end of one channel is played from outside.  When a call is made, the
player reads the mailbox until the call has ended, and answers the request as it was
told to.  Between calls the player may take single messages out of the mailbox, or let
it go away.
-/

namespace DataPath.Bench

/-- How the player answers a request: what the reply says, and which number it carries
when the request carries a given one.  Without it the request is dropped. -/
abbrev Scripted := Option (ReplyBody × (Nat → Nat))

/-- What is done to the channel. -/
inductive ChannelPlay where
  /-- Send a request and wait for the answer, in a blocking way or not. -/
  | call (request : Request) (blocking : Bool) (reply : Scripted)
  /-- Send the message to stop. -/
  | shutdown
  /-- Subscribe, and be told this number. -/
  | subscribe (filter : NoticeFilter) (reply : Option Nat)
  /-- Give up a subscription, and be told whether it was known. -/
  | unsubscribe (id : Nat) (reply : Option Bool)
  /-- Post a request. -/
  | post (request : Request)
  /-- Take one message out of the mailbox. -/
  | take
  /-- The mailbox goes away. -/
  | close

/-- What came of one step: the messages the player read, and the result. -/
structure ChannelReport where
  read : List (Message Unit Unit) := []
  answer : Option Answer := none

namespace ChannelBench

/-- The reply to the request with this number. -/
def Scripted.reply (script : Scripted) (id : Nat) : Option Reply :=
  script.map fun s => ⟨s.2 id, s.1⟩

/-- What a caller of a request with this number makes of a reply. -/
def readReply (request : Request) (blocking : Bool) (id : Nat) (reply : Option Reply) : Answer :=
  if blocking then request.expects.readBlocking (reply.map fun r => (id, r))
  else request.expects.read id reply

/-- One step: the channel afterwards, and what came of it. -/
def step (c : Channel Unit Unit) : ChannelPlay → Channel Unit Unit × ChannelReport
  | .call request blocking script =>
    let (after, sent) := c.call request fun _ => ()
    let reply := if sent then Scripted.reply script c.nextId else none
    ({ after with mailbox := [] },
      { read := after.mailbox, answer := some (readReply request blocking c.nextId reply) })
  | .shutdown =>
    let (after, _) := c.put .shutdown
    ({ after with mailbox := [] }, { read := after.mailbox, answer := some .nothing })
  | .subscribe filter reply =>
    let (after, sent) := c.put (.subscribe filter () ())
    let answer := match sent, reply with
      | true, some id => .subscription id
      | _, _ => .fault (.closed c.tenant)
    ({ after with mailbox := [] }, { read := after.mailbox, answer := some answer })
  | .unsubscribe id reply =>
    let (after, sent) := c.put (.unsubscribe id ())
    ({ after with mailbox := [] },
      { read := after.mailbox, answer := some (.flag (sent && reply.getD false)) })
  | .post request =>
    let (after, fault) := c.post request
    (after, { answer := some (fault.elim .done .fault) })
  | .take => match c.take? with
    | some (message, after) => (after, { read := [message] })
    | none => (c, {})
  | .close => (c.close, {})

end ChannelBench

end DataPath.Bench
