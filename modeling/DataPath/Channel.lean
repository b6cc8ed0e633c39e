import DataPath.Notice
import DataPath.Request

/-!
# The channel to a switch

Requests reach the switch of a tenant through a mailbox that holds a limited number of
messages.  The channel numbers the requests, and clones of a channel share both the
mailbox and the numbers, so that no two requests have the same one.

There are two ways to send.  A *post* waits for nothing: it is refused when the mailbox
is full, and nobody hears of an answer.  A *call* waits, for room in the mailbox and
then for the answer; messages behind the first `capacity` ones are those whose senders
wait for room.  A caller believes an answer only if it carries the number of the
request and is of the kind that was asked for.

The parameters are the type `ρ` of the handles by which callers are answered and the
type `σ` of the sinks by which subscribers are reached.
-/

namespace DataPath

/-- What stands in the mailbox of a switch. -/
inductive Message (ρ σ : Type) where
  /-- A request with its number, and a handle if somebody waits for the answer. -/
  | request (id : Nat) (request : Request) (handle : Option ρ)
  /-- Somebody wants notices; the answer is the number of the subscription. -/
  | subscribe (filter : NoticeFilter) (sink : σ) (handle : ρ)
  /-- Somebody wants no more notices; the answer is whether the subscription was known. -/
  | unsubscribe (id : Nat) (handle : ρ)
  /-- The switch is to stop. -/
  | shutdown
  deriving DecidableEq, Repr

/-- The numbers of the requests to one switch, and its mailbox. -/
structure Channel (ρ σ : Type) where
  tenant : Tenant
  /-- How many messages the mailbox holds. -/
  capacity : Nat
  /-- The number of the next request. -/
  nextId : Nat := 1
  /-- Whether there is still somebody to read the mailbox. -/
  isOpen : Bool := true
  /-- The messages that were not read yet, oldest first. -/
  mailbox : List (Message ρ σ) := []
  deriving DecidableEq, Repr

namespace Channel

variable {ρ σ : Type}

/-- Put a message into the mailbox, waiting for room if there is none, and tell whether
there was a mailbox. -/
def put (c : Channel ρ σ) (message : Message ρ σ) : Channel ρ σ × Bool :=
  if c.isOpen then ({ c with mailbox := c.mailbox ++ [message] }, true) else (c, false)

/-- Send a request whose answer is awaited, by a handle that may know the number, and
tell whether there was a mailbox.  The number is used up in any case. -/
def call (c : Channel ρ σ) (request : Request) (handle : Nat → ρ) : Channel ρ σ × Bool :=
  { c with nextId := c.nextId + 1 }.put (.request c.nextId request (some (handle c.nextId)))

/-- Put a message into the mailbox without waiting for room, and tell why it was refused,
if it was. -/
def offer (c : Channel ρ σ) (message : Message ρ σ) : Channel ρ σ × Option ServiceFault :=
  if ¬c.isOpen then (c, some (.closed c.tenant))
  else if c.capacity ≤ c.mailbox.length then (c, some (.mailboxFull c.tenant))
  else ({ c with mailbox := c.mailbox ++ [message] }, none)

/-- Post a request, and tell why it was refused, if it was.  The number is used up in
any case. -/
def post (c : Channel ρ σ) (request : Request) : Channel ρ σ × Option ServiceFault :=
  { c with nextId := c.nextId + 1 }.offer (.request c.nextId request none)

/-- Take the oldest message out of the mailbox. -/
def take? (c : Channel ρ σ) : Option (Message ρ σ × Channel ρ σ) :=
  match c.mailbox with
  | [] => none
  | message :: rest => some (message, { c with mailbox := rest })

/-- The mailbox goes away, with what is in it. -/
def close (c : Channel ρ σ) : Channel ρ σ := { c with isOpen := false, mailbox := [] }

end Channel

/-! ## What a caller makes of the answer -/

/-- The outcome of a request with this number, given the reply that came, if any. -/
def outcomeFrom (id : Nat) : Option Reply → Outcome
  | none => .failed .noReply
  | some reply => match reply.body with
    | .outcome outcome => if reply.id = id then outcome else .failed .mismatchedReply
    | _ => .failed .mismatchedReply

/-- The answer to a question with this number; without a good reply it is no. -/
def flagFrom (id : Nat) : Option Reply → Bool
  | some ⟨replyId, .flag value⟩ => value && replyId = id
  | _ => false

/-- The snapshot asked for with this number; without a good reply there is none. -/
def snapshotFrom (id : Nat) : Option Reply → Option Snapshot
  | some ⟨replyId, .snapshot snapshot⟩ => if replyId = id then some snapshot else none
  | _ => none

/-- What a blocking caller receives: the number of its request with the reply, or
nothing if the request could not be sent or no reply came. -/
abbrev Received := Option (Nat × Reply)

/-- The outcome for a caller that blocks. -/
def Received.outcome : Received → Outcome
  | some (id, reply) => outcomeFrom id (some reply)
  | none => .failed .noReply

/-- The answer to a question for a caller that blocks. -/
def Received.flag : Received → Bool
  | some (id, reply) => flagFrom id (some reply)
  | none => false

/-- What kind of reply a request asks for. -/
inductive Expect where
  | outcome
  | flag
  | snapshot
  deriving DecidableEq, Repr

/-- What kind of reply a request asks for. -/
def Request.expects : Request → Expect
  | .connect _ | .acquire .. | .disconnect _ | .retryConnect | .cleanupAll => .outcome
  | .isIdle | .isIdleOrReleasing => .flag
  | .snapshot => .snapshot

end DataPath
