import DataPath.Answer
import Mathlib.Data.List.Induction
import Mathlib.Data.List.Nodup

/-!
# Requests and the replies to them

Many callers share a channel, each with a clone of it.  A call begins when it takes a number.  Its
request is sent some time later, and meanwhile other calls may take numbers and send their requests;
so the requests need not stand in the mailbox in the order of their numbers.  A post is over when it
was sent, or refused.  Any other call is over when the receiver has answered it, has dropped its
handle, or has closed the mailbox so that the request never was read.

A call whose request is sent as soon as it has its number is what `Channel.post` and `Channel.call`
do in one go (`place_posting`, `place_waiting`).

Nothing is assumed of the receiver: it answers what it has taken in any order, with any number and
any kind of reply.  All the same nothing is mixed up (`correlated_of_run`).

* The numbers are those from one on, in the order in which the calls have begun, and a request stands
  in the mailbox under the number of its call.
* A call hears what was answered to it and to nobody else, or that there was no answer.
* What it makes of that is what `Reads` says, whether the caller blocks or not.
-/

namespace DataPath

/-! ## What a caller makes of the answer -/

/-- What is read off the reply to a request with this number, or off its absence. -/
inductive Reads (id : Nat) (reply : Option Reply) : Expect → Answer → Prop where
  /-- The reply to this request is an outcome. -/
  | outcome (o : Outcome) (hreply : reply = some ⟨id, .outcome o⟩) :
      Reads id reply .outcome (.outcome o)
  /-- There is a reply, but it is none that this request asks for. -/
  | mismatched (r : Reply) (hreply : reply = some r) (hother : ∀ o, r ≠ ⟨id, .outcome o⟩) :
      Reads id reply .outcome (.outcome (.failed .mismatchedReply))
  /-- There is no reply. -/
  | unanswered (hreply : reply = none) : Reads id reply .outcome (.outcome (.failed .noReply))
  /-- The reply to this request is yes. -/
  | yes (hreply : reply = some ⟨id, .flag true⟩) : Reads id reply .flag (.flag true)
  /-- Everything else means no. -/
  | no (hreply : reply ≠ some ⟨id, .flag true⟩) : Reads id reply .flag (.flag false)
  /-- The reply to this request is a snapshot. -/
  | snapshot (s : Snapshot) (hreply : reply = some ⟨id, .snapshot s⟩) :
      Reads id reply .snapshot (.snapshot (some s))
  /-- Everything else is no snapshot. -/
  | noSnapshot (hreply : ∀ s, reply ≠ some ⟨id, .snapshot s⟩) :
      Reads id reply .snapshot (.snapshot none)

theorem reads_outcomeFrom (id : Nat) (reply : Option Reply) :
    Reads id reply .outcome (.outcome (outcomeFrom id reply)) := by
  cases reply with
  | none => exact .unanswered rfl
  | some r =>
    obtain ⟨replyId, body⟩ := r
    cases body with
    | outcome o =>
      by_cases hid : replyId = id
      · subst hid
        simp only [outcomeFrom, if_true]
        exact .outcome o rfl
      · simp only [outcomeFrom, if_neg hid]
        exact .mismatched _ rfl fun o' heq => hid (congrArg Reply.id heq)
    | flag value => exact .mismatched _ rfl nofun
    | snapshot s => exact .mismatched _ rfl nofun

theorem reads_flagFrom (id : Nat) (reply : Option Reply) :
    Reads id reply .flag (.flag (flagFrom id reply)) := by
  cases reply with
  | none => exact .no nofun
  | some r =>
    obtain ⟨replyId, body⟩ := r
    cases body with
    | flag value =>
      by_cases hgood : value = true ∧ replyId = id
      · obtain ⟨rfl, rfl⟩ := hgood
        simp only [flagFrom, decide_true, Bool.and_true]
        exact .yes rfl
      · have hno : (value && decide (replyId = id)) = false := by
          rw [Bool.eq_false_iff, ne_eq, Bool.and_eq_true, decide_eq_true_eq]
          exact hgood
        simp only [flagFrom, hno]
        refine .no fun heq => hgood ?_
        injection heq with heq
        injection heq with hid hbody
        injection hbody with hvalue
        exact ⟨hvalue, hid⟩
    | outcome o => exact .no nofun
    | snapshot s => exact .no nofun

theorem reads_snapshotFrom (id : Nat) (reply : Option Reply) :
    Reads id reply .snapshot (.snapshot (snapshotFrom id reply)) := by
  cases reply with
  | none => exact .noSnapshot nofun
  | some r =>
    obtain ⟨replyId, body⟩ := r
    cases body with
    | snapshot s =>
      by_cases hid : replyId = id
      · subst hid
        simp only [snapshotFrom, if_true]
        exact .snapshot s rfl
      · simp only [snapshotFrom, if_neg hid]
        refine .noSnapshot fun s' heq => hid ?_
        injection heq with heq
        exact congrArg Reply.id heq
    | outcome o => exact .noSnapshot nofun
    | flag value => exact .noSnapshot nofun

/-- What a caller makes of the reply that it gets, or does not get. -/
theorem Expect.reads_read (expect : Expect) (id : Nat) (reply : Option Reply) :
    Reads id reply expect (expect.read id reply) := by
  cases expect with
  | outcome => exact reads_outcomeFrom id reply
  | flag => exact reads_flagFrom id reply
  | snapshot => exact reads_snapshotFrom id reply

/-- A caller that blocks makes the same of it. -/
theorem Expect.readBlocking_eq (expect : Expect) (id : Nat) (reply : Option Reply) :
    expect.readBlocking (reply.map fun r => (id, r)) = expect.read id reply := by
  cases reply <;> cases expect <;> rfl

/-! ## Calls and the receiver -/

/-- Who is answered by way of a handle. -/
inductive Traffic.Waiter where
  /-- A call, by its place among all calls. -/
  | call (k : Nat)
  /-- Somebody who subscribes to notices, or no longer wants any. -/
  | subscriber
  deriving DecidableEq, Repr

/-- How a call is made. -/
inductive Traffic.Manner where
  /-- The caller is resumed when there is an answer. -/
  | awaiting
  /-- The caller blocks until there is an answer. -/
  | blocking
  /-- The caller waits for nothing. -/
  | posting
  deriving DecidableEq, Repr

/-- How far a call has come. -/
inductive Traffic.Stage where
  /-- It has its number. -/
  | numbered
  /-- Its request was sent, and it waits for the answer. -/
  | sent
  /-- It is over, after this reply, or without one, and with this result. -/
  | ended (reply : Option Reply) (result : Answer)
  deriving DecidableEq, Repr

/-- A call, by somebody who has a clone of the channel. -/
structure Traffic.Call where
  clone : Nat
  manner : Traffic.Manner
  request : Request
  id : Nat
  stage : Traffic.Stage := .numbered
  deriving DecidableEq, Repr

/-- What may be sent that is no request. -/
inductive Traffic.Aside where
  | subscribe (filter : NoticeFilter)
  | unsubscribe (id : Nat)
  | shutdown
  deriving DecidableEq, Repr

/-- A channel, the calls by its clones, and what has become of the messages. -/
structure Traffic where
  channel : Channel Traffic.Waiter Unit
  /-- All calls there have been, in the order in which they have begun. -/
  calls : List Traffic.Call := []
  /-- All messages that were put into the mailbox, oldest first. -/
  accepted : List (Message Traffic.Waiter Unit) := []
  /-- All messages that the receiver has taken out of it, oldest first. -/
  taken : List (Message Traffic.Waiter Unit) := []
  deriving DecidableEq, Repr

/-- What may happen on a channel. -/
inductive Traffic.Move where
  /-- A call begins, by way of one of the clones: it takes a number. -/
  | start (clone : Nat) (manner : Traffic.Manner) (request : Request)
  /-- The request of a call is sent. -/
  | send (k : Nat)
  /-- Something else is sent. -/
  | tell (aside : Traffic.Aside)
  /-- The receiver takes the oldest message. -/
  | take
  /-- The receiver answers a call, or drops its handle. -/
  | answer (k : Nat) (reply : Option Reply)
  /-- The receiver closes the mailbox; either it still reads what has had room, or nothing. -/
  | close (reading : Bool)
  deriving DecidableEq, Repr

namespace Traffic

variable {w w' : Traffic} {k j : Nat} {call : Call} {move : Move} {moves : List Move}
  {reply : Option Reply} {answer : Answer} {m : Message Waiter Unit}

/-- The call that waits for the answer to a message. -/
def caller? : Message Waiter Unit → Option Nat
  | .request _ _ (some (.call k)) => some k
  | .request .. | .subscribe .. | .unsubscribe .. | .shutdown => none

/-- The number that a message carries, if it is a request. -/
def id? : Message Waiter Unit → Option Nat
  | .request id _ _ => some id
  | .subscribe .. | .unsubscribe .. | .shutdown => none

/-- Somebody waits for the answer to one of these messages, namely this call. -/
def Awaits (messages : List (Message Waiter Unit)) (k : Nat) : Prop :=
  k ∈ messages.filterMap caller?

instance (messages : List (Message Waiter Unit)) (k : Nat) : Decidable (Awaits messages k) :=
  inferInstanceAs (Decidable (k ∈ messages.filterMap caller?))

/-- The message by which something is said that is no request. -/
def Aside.message : Aside → Message Waiter Unit
  | .subscribe filter => .subscribe filter () .subscriber
  | .unsubscribe id => .unsubscribe id .subscriber
  | .shutdown => .shutdown

/-- The message of the call at a place; nobody is answered by way of a post. -/
def Call.message (call : Call) (k : Nat) : Message Waiter Unit :=
  .request call.id call.request (if call.manner = .posting then none else some (.call k))

/-- What a call comes to after a reply, or without one. -/
def Call.result (call : Call) (reply : Option Reply) : Answer :=
  match call.manner with
  | .blocking => call.request.expects.readBlocking (reply.map fun r => (call.id, r))
  | .awaiting | .posting => call.request.expects.read call.id reply

/-- The call at this stage. -/
def Call.at (call : Call) (stage : Stage) : Call := { call with stage := stage }

/-- The call is over after this reply, or without one. -/
def Call.over (call : Call) (reply : Option Reply) : Call :=
  call.at (.ended reply (call.result reply))

/-- The call is over, if it has waited for an answer. -/
def Call.hear (reply : Option Reply) (call : Call) : Call :=
  if call.stage = .sent then call.over reply else call

/-- The call at a place is over if it has waited for the answer to one of these messages. -/
def Call.lose (call : Call) (k : Nat) (gone : List (Message Waiter Unit)) : Call :=
  if Awaits gone k then call.hear none else call

/-- A post that was sent, or refused. -/
def Call.posted (call : Call) (fault : Option ServiceFault) : Call :=
  call.at (.ended none (fault.elim .done .fault))

/-- A message has changed the mailbox, if it was accepted. -/
def enter (w : Traffic) (channel : Channel Waiter Unit) (m : Message Waiter Unit) (done : Bool) :
    Traffic :=
  { w with channel := channel, accepted := if done then w.accepted ++ [m] else w.accepted }

/-- The call at a place becomes this one. -/
def become (w : Traffic) (k : Nat) (call : Call) : Traffic :=
  { w with calls := w.calls.set k call }

/-- The request of the call at a place is sent. -/
def send (w : Traffic) (k : Nat) (call : Call) : Traffic :=
  match call.manner with
  | .posting =>
    let (channel, fault) := w.channel.offer (call.message k)
    (w.enter channel (call.message k) fault.isNone).become k (call.posted fault)
  | .awaiting | .blocking =>
    let (channel, done) := w.channel.put (call.message k)
    (w.enter channel (call.message k) done).become k (if done then call.at .sent else call.over none)

/-- Nobody can send any more; so many messages can still be read, and the others are lost. -/
def quit (w : Traffic) (keep : Nat) : Traffic :=
  { w with
    channel := { w.channel with isOpen := false, mailbox := w.channel.mailbox.take keep }
    calls := w.calls.mapIdx fun k call => call.lose k (w.channel.mailbox.drop keep) }

/-- What one move comes to. -/
def step (w : Traffic) : Move → Traffic
  | .start clone manner request =>
    { w with
      channel := { w.channel with nextId := w.channel.nextId + 1 }
      calls := w.calls ++ [⟨clone, manner, request, w.channel.nextId, .numbered⟩] }
  | .send k =>
    match w.calls[k]? with
    | some call => if call.stage = .numbered then w.send k call else w
    | none => w
  | .tell aside =>
    let (channel, done) := w.channel.put aside.message
    w.enter channel aside.message done
  | .take =>
    match w.channel.take? with
    | some (m, channel) => { w with channel := channel, taken := w.taken ++ [m] }
    | none => w
  | .answer k reply =>
    if Awaits w.taken k then { w with calls := w.calls.modify k (Call.hear reply) } else w
  | .close reading => w.quit (if reading then w.channel.capacity else 0)

/-- A new channel, after some moves. -/
def run (tenant : Tenant) (capacity : Nat) (moves : List Move) : Traffic :=
  moves.foldl step { channel := { tenant := tenant, capacity := capacity } }

@[simp] theorem run_append (tenant : Tenant) (capacity : Nat) (moves : List Move) (move : Move) :
    run tenant capacity (moves ++ [move]) = (run tenant capacity moves).step move := by
  simp [run]

/-! ## The moves and the channel itself -/

/-- A call that has not sent its request yet sends it. -/
theorem step_send (hcall : w.calls[k]? = some call) (hnumbered : call.stage = .numbered) :
    w.step (.send k) = w.send k call := by
  rw [step, hcall]
  exact if_pos hnumbered

/-- A call begins, and its request is sent before anything else happens. -/
def place (w : Traffic) (clone : Nat) (manner : Manner) (request : Request) : Traffic :=
  (w.step (.start clone manner request)).step (.send w.calls.length)

/-- The call that begins next. -/
def nextCall (w : Traffic) (clone : Nat) (manner : Manner) (request : Request) : Call :=
  ⟨clone, manner, request, w.channel.nextId, .numbered⟩

theorem place_eq (w : Traffic) (clone : Nat) (manner : Manner) (request : Request) :
    w.place clone manner request = (w.step (.start clone manner request)).send w.calls.length
      (w.nextCall clone manner request) :=
  step_send List.getElem?_concat_length rfl

/-- The call that has begun last becomes another. -/
theorem calls_become_last (w : Traffic) (calls : List Call) (call call' : Call)
    (hcalls : w.calls = calls ++ [call]) :
    (w.become calls.length call').calls = calls ++ [call'] := by
  rw [become, hcalls]
  simp

/-- A post that is made at once does what `Channel.post` does, and comes to what that tells. -/
theorem place_posting (w : Traffic) (clone : Nat) (request : Request) :
    (w.place clone .posting request).channel = (w.channel.post request).1 ∧
      (w.place clone .posting request).calls =
        w.calls ++ [(w.nextCall clone .posting request).posted (w.channel.post request).2] := by
  rw [place_eq]
  exact ⟨rfl, calls_become_last _ w.calls _ _ rfl⟩

/-- A call whose request is sent at once does what `Channel.call` does, and waits, or comes to its end
if there is no mailbox. -/
theorem place_waiting (w : Traffic) (clone : Nat) {manner : Manner} (hwaits : manner ≠ .posting)
    (request : Request) :
    (w.place clone manner request).channel =
        (w.channel.call request fun _ => .call w.calls.length).1 ∧
      (w.place clone manner request).calls =
        w.calls ++ [if (w.channel.call request fun _ => .call w.calls.length).2 then
          (w.nextCall clone manner request).at .sent
        else (w.nextCall clone manner request).over none] := by
  rw [place_eq]
  cases manner with
  | posting => exact absurd rfl hwaits
  | awaiting | blocking => exact ⟨rfl, calls_become_last _ w.calls _ _ rfl⟩

/-- A mailbox that goes away is one that the receiver closes and does not read. -/
theorem step_close (w : Traffic) : (w.step (.close false)).channel = w.channel.close := rfl

/-- A message has come into the mailbox. -/
def accept (w : Traffic) (m : Message Waiter Unit) : Traffic :=
  w.enter { w.channel with mailbox := w.channel.mailbox ++ [m] } m true

/-- What it can come to that the request of a call is sent. -/
inductive Sends (w : Traffic) (k : Nat) (call : Call) : Traffic → Prop where
  | sent (hwaits : call.manner ≠ .posting) (hopen : w.channel.isOpen = true) :
      Sends w k call ((w.accept (call.message k)).become k (call.at .sent))
  | posted (hposts : call.manner = .posting) (hopen : w.channel.isOpen = true)
      (hroom : w.channel.mailbox.length < w.channel.capacity) :
      Sends w k call ((w.accept (call.message k)).become k (call.posted none))
  | full (hposts : call.manner = .posting) (hopen : w.channel.isOpen = true)
      (hfull : w.channel.capacity ≤ w.channel.mailbox.length) :
      Sends w k call (w.become k (call.posted (some (.mailboxFull w.channel.tenant))))
  | closed (hposts : call.manner = .posting) (hclosed : w.channel.isOpen = false) :
      Sends w k call (w.become k (call.posted (some (.closed w.channel.tenant))))
  | unsent (hwaits : call.manner ≠ .posting) (hclosed : w.channel.isOpen = false) :
      Sends w k call (w.become k (call.over none))

theorem sends_send (w : Traffic) (k : Nat) (call : Call) : Sends w k call (w.send k call) := by
  by_cases hposts : call.manner = .posting
  · cases hopen : w.channel.isOpen with
    | false =>
      have hsend : w.send k call = w.become k (call.posted (some (.closed w.channel.tenant))) := by
        simp [send, hposts, Channel.offer, hopen, enter]
      exact hsend ▸ .closed hposts hopen
    | true =>
      rcases Nat.lt_or_ge w.channel.mailbox.length w.channel.capacity with hroom | hfull
      · have hsend : w.send k call = (w.accept (call.message k)).become k (call.posted none) := by
          simp [send, hposts, Channel.offer, hopen, Nat.not_le.2 hroom, accept]
        exact hsend ▸ .posted hposts hopen hroom
      · have hsend : w.send k call =
            w.become k (call.posted (some (.mailboxFull w.channel.tenant))) := by
          simp [send, hposts, Channel.offer, hopen, hfull, enter]
        exact hsend ▸ .full hposts hopen hfull
  · have hput : w.send k call =
        (w.enter (w.channel.put (call.message k)).1 (call.message k)
          (w.channel.put (call.message k)).2).become k
            (if (w.channel.put (call.message k)).2 then call.at .sent else call.over none) := by
      cases hmanner : call.manner with
      | posting => exact absurd hmanner hposts
      | awaiting | blocking => simp only [send, hmanner]
    cases hopen : w.channel.isOpen with
    | false =>
      have hsend : w.send k call = w.become k (call.over none) := by
        rw [hput]
        simp [Channel.put, hopen, enter]
      exact hsend ▸ .unsent hposts hopen
    | true =>
      have hsend : w.send k call = (w.accept (call.message k)).become k (call.at .sent) := by
        rw [hput]
        simp [Channel.put, hopen, accept]
      exact hsend ▸ .sent hposts hopen

/-! ## What becomes of a call -/

/-- A call stays as it is, or comes to another stage; but nothing becomes of one that is over. -/
inductive Call.Turns : Call → Call → Prop where
  | refl (call : Call) : Turns call call
  | at (call : Call) (stage : Stage) (hbegun : stage ≠ .numbered)
      (hgoing : ∀ reply answer, call.stage ≠ .ended reply answer) : Turns call (call.at stage)

theorem Call.turns_hear (reply : Option Reply) (call : Call) : call.Turns (call.hear reply) := by
  by_cases hsent : call.stage = .sent
  · rw [Call.hear, if_pos hsent]
    exact .at call _ nofun fun _ _ hended => nomatch hsent.symm.trans hended
  · rw [Call.hear, if_neg hsent]
    exact .refl call

theorem Call.turns_lose (call : Call) (k : Nat) (gone : List (Message Waiter Unit)) :
    call.Turns (call.lose k gone) := by
  by_cases hgone : Awaits gone k
  · rw [Call.lose, if_pos hgone]
    exact call.turns_hear none
  · rw [Call.lose, if_neg hgone]
    exact .refl call

theorem Call.Turns.message {call' : Call} (h : call.Turns call') (k : Nat) :
    call'.message k = call.message k := by
  cases h <;> rfl

theorem Call.Turns.begun {call' : Call} (h : call.Turns call') (hbegun : call.stage ≠ .numbered) :
    call'.stage ≠ .numbered := by
  cases h with
  | refl => exact hbegun
  | «at» stage hstage => exact hstage

theorem Sends.calls (h : Sends w k call w') :
    ∃ stage, w'.calls = w.calls.set k (call.at stage) ∧ stage ≠ .numbered := by
  cases h with
  | sent | posted | full | closed | unsent => exact ⟨_, rfl, nofun⟩

/-- Whatever happens, every call stays at its place. -/
theorem turns_step (move : Move) (hcall : w.calls[k]? = some call) :
    ∃ call', (w.step move).calls[k]? = some call' ∧ call.Turns call' := by
  have hk : k < w.calls.length := (List.getElem?_eq_some_iff.1 hcall).1
  cases move with
  | start clone manner request =>
    exact ⟨call, (List.getElem?_append_left hk).trans hcall, .refl call⟩
  | send j =>
    rw [step]
    split
    · next sender hsender =>
      split
      · next hnumbered =>
        obtain ⟨stage, hcalls, hbegun⟩ := (sends_send w j sender).calls
        rw [hcalls]
        by_cases hjk : j = k
        · subst hjk
          obtain rfl : call = sender := Option.some.inj (hcall.symm.trans hsender)
          refine ⟨_, List.getElem?_set_self hk, .at call stage hbegun fun _ _ hended => ?_⟩
          exact nomatch hnumbered.symm.trans hended
        · exact ⟨call, (List.getElem?_set_ne hjk).trans hcall, .refl call⟩
      · exact ⟨call, hcall, .refl call⟩
    · exact ⟨call, hcall, .refl call⟩
  | tell aside => exact ⟨call, hcall, .refl call⟩
  | take =>
    refine ⟨call, ?_, .refl call⟩
    rw [step]
    split <;> exact hcall
  | answer j reply =>
    rw [step]
    split
    · by_cases hjk : j = k
      · subst hjk
        refine ⟨_, ?_, call.turns_hear reply⟩
        exact (List.getElem?_modify_eq ..).trans (congrArg (Option.map _) hcall)
      · exact ⟨call, (List.getElem?_modify_ne _ _ hjk).trans hcall, .refl call⟩
    · exact ⟨call, hcall, .refl call⟩
  | close reading =>
    refine ⟨_, (List.getElem?_mapIdx ..).trans (congrArg (Option.map _) hcall), ?_⟩
    exact call.turns_lose k _

/-! ## What is known of every call -/

/-- The messages that the receiver has, or can still have. -/
def reach (w : Traffic) : List (Message Waiter Unit) := w.taken ++ w.channel.mailbox

/-- What is known of the call at a place, when these moves have been made. -/
structure Call.Kept (moves : List Move) (w : Traffic) (k : Nat) (call : Call) : Prop where
  id : call.id = k + 1
  waits : call.stage = .sent → call.manner ≠ .posting ∧ Awaits w.reach k
  heard : ∀ reply answer, call.stage = .ended reply answer → call.manner ≠ .posting →
    answer = call.result reply ∧
      (.answer k reply ∈ moves ∨ reply = none ∧ ∃ reading, .close reading ∈ moves)

/-- What is known of a channel, when these moves have been made. -/
structure Sound (moves : List Move) (w : Traffic) : Prop where
  kept : ∀ (k : Nat) (call : Call), w.calls[k]? = some call → call.Kept moves w k
  next : w.channel.nextId = w.calls.length + 1
  closed : w.channel.isOpen = false → ∃ reading, .close reading ∈ moves
  carried : ∀ m ∈ w.accepted, ∀ id, id? m = some id →
    ∃ (k : Nat) (call : Call), w.calls[k]? = some call ∧ call.stage ≠ .numbered ∧ m = call.message k
  distinct : (w.accepted.filterMap id?).Nodup
  stored : w.reach.Sublist w.accepted

theorem awaits_append {messages messages' : List (Message Waiter Unit)} :
    Awaits (messages ++ messages') k ↔ Awaits messages k ∨ Awaits messages' k := by
  rw [Awaits, List.filterMap_append, List.mem_append]
  rfl

theorem Call.awaits_message (hwaits : call.manner ≠ .posting) (k : Nat) :
    Awaits [call.message k] k := by
  rw [Call.message, if_neg hwaits]
  exact List.mem_singleton_self k

theorem Aside.id?_message (aside : Aside) : id? aside.message = none := by
  cases aside <;> rfl

/-- What is known of a call stays known while the receiver can still find its request. -/
theorem Call.Kept.mono (h : call.Kept moves w k) (move : Move)
    (hreach : call.stage = .sent → Awaits w.reach k → Awaits w'.reach k) :
    call.Kept (moves ++ [move]) w' k where
  id := h.id
  waits hsent := ⟨(h.waits hsent).1, hreach hsent (h.waits hsent).2⟩
  heard reply answer hended hwaits := by
    obtain ⟨hanswer, hwhy⟩ := h.heard reply answer hended hwaits
    refine ⟨hanswer, hwhy.imp (List.mem_append_left _) ?_⟩
    rintro ⟨hnone, reading, hclose⟩
    exact ⟨hnone, reading, List.mem_append_left _ hclose⟩

/-- A call that hears an answer is known to have heard it. -/
theorem Call.Kept.hear (h : call.Kept moves w k) (move : Move)
    (hwhy : .answer k reply ∈ moves ++ [move] ∨
      reply = none ∧ ∃ reading, .close reading ∈ moves ++ [move]) :
    (call.hear reply).Kept (moves ++ [move]) w' k := by
  by_cases hsent : call.stage = .sent
  · rw [Call.hear, if_pos hsent]
    refine ⟨h.id, nofun, fun reply' answer hended _ => ?_⟩
    obtain ⟨rfl, rfl⟩ := Stage.ended.inj hended
    exact ⟨rfl, hwhy⟩
  · rw [Call.hear, if_neg hsent]
    exact h.mono move fun hnow => absurd hnow hsent

theorem sound_new (tenant : Tenant) (capacity : Nat) : Sound [] (run tenant capacity []) where
  kept _ _ hcall := nomatch hcall
  next := rfl
  closed := nofun
  carried _ hm := nomatch hm
  distinct := .nil
  stored := .slnil

/-- A message stands for the same call after every move. -/
theorem Sound.carried_step (h : Sound moves w) (move : Move) (hm : m ∈ w.accepted) {id : Nat}
    (hid : id? m = some id) :
    ∃ (k : Nat) (call : Call),
      (w.step move).calls[k]? = some call ∧ call.stage ≠ .numbered ∧ m = call.message k := by
  obtain ⟨k, call, hcall, hbegun, hmessage⟩ := h.carried m hm id hid
  obtain ⟨call', hcall', hturns⟩ := turns_step move hcall
  exact ⟨k, call', hcall', hturns.begun hbegun, hmessage.trans (hturns.message k).symm⟩

/-- The request of a call that has just begun was never sent. -/
theorem Sound.fresh (h : Sound moves w) (hcall : w.calls[k]? = some call)
    (hnumbered : call.stage = .numbered) : call.id ∉ w.accepted.filterMap id? := by
  intro hmem
  obtain ⟨m, hm, hid⟩ := List.mem_filterMap.1 hmem
  obtain ⟨j, other, hother, hbegun, rfl⟩ := h.carried m hm call.id hid
  have heq : other.id = call.id := Option.some.inj hid
  rw [(h.kept j other hother).id, (h.kept k call hcall).id] at heq
  obtain rfl : j = k := Nat.succ.inj heq
  exact hbegun (Option.some.inj (hother.symm.trans hcall) ▸ hnumbered)

theorem Sound.step_start (h : Sound moves w) (clone : Nat) (manner : Manner) (request : Request) :
    Sound (moves ++ [.start clone manner request]) (w.step (.start clone manner request)) where
  kept k call hcall := by
    rcases Nat.lt_trichotomy k w.calls.length with hlt | rfl | hgt
    · have hold : w.calls[k]? = some call := (List.getElem?_append_left hlt).symm.trans hcall
      exact (h.kept k call hold).mono _ fun _ => id
    · obtain rfl : _ = call := Option.some.inj (List.getElem?_concat_length.symm.trans hcall)
      exact ⟨h.next, nofun, fun _ _ hended => nomatch hended⟩
    · refine absurd (List.getElem?_eq_some_iff.1 hcall).1 (Nat.not_lt.2 ?_)
      show (w.calls ++ [_]).length ≤ k
      rw [List.length_append]
      exact hgt
  next := by
    show w.channel.nextId + 1 = (w.calls ++ [_]).length + 1
    rw [h.next, List.length_append]
    rfl
  closed hclosed := (h.closed hclosed).imp fun _ => List.mem_append_left _
  carried _ hm _ := h.carried_step _ hm
  distinct := h.distinct
  stored := h.stored

/-- It is enough to look at the calls when no message has come in. -/
theorem Sound.of_step (h : Sound moves w) (move : Move) (hstep : w.step move = w')
    (hkept : ∀ (k : Nat) (call : Call), w'.calls[k]? = some call →
      call.Kept (moves ++ [move]) w' k)
    (hlength : w'.calls.length = w.calls.length)
    (hnext : w'.channel.nextId = w.channel.nextId)
    (hclosed : w'.channel.isOpen = false →
      w.channel.isOpen = false ∨ ∃ reading, move = .close reading)
    (haccepted : w'.accepted = w.accepted) (hreach : w'.reach.Sublist w.reach) :
    Sound (moves ++ [move]) w' where
  kept := hkept
  next := by rw [hlength, hnext, h.next]
  closed hnow := by
    rcases hclosed hnow with hbefore | ⟨reading, rfl⟩
    · exact (h.closed hbefore).imp fun _ => List.mem_append_left _
    · exact ⟨reading, List.mem_append_right _ (List.mem_singleton_self _)⟩
  carried m hm _ := hstep ▸ h.carried_step move (haccepted ▸ hm)
  distinct := haccepted ▸ h.distinct
  stored := haccepted ▸ hreach.trans h.stored

/-- A move that comes to nothing. -/
theorem Sound.of_idle (h : Sound moves w) (move : Move) (hstep : w.step move = w) :
    Sound (moves ++ [move]) (w.step move) := by
  rw [hstep]
  refine h.of_step _ hstep (fun k call hcall => ?_) rfl rfl .inl rfl (.refl _)
  exact (h.kept k call hcall).mono _ fun _ => id

/-- When a message has come in, it must have a number of its own, if it has one. -/
theorem Sound.of_accept (h : Sound moves w) (move : Move) (m : Message Waiter Unit)
    (hstep : w.step move = w')
    (hkept : ∀ (k : Nat) (call : Call), w'.calls[k]? = some call →
      call.Kept (moves ++ [move]) w' k)
    (hlength : w'.calls.length = w.calls.length)
    (hchannel : w'.channel = { w.channel with mailbox := w.channel.mailbox ++ [m] })
    (haccepted : w'.accepted = w.accepted ++ [m]) (htaken : w'.taken = w.taken)
    (hnew : ∀ id, id? m = some id → id ∉ w.accepted.filterMap id? ∧
      ∃ (k : Nat) (call : Call),
        w'.calls[k]? = some call ∧ call.stage ≠ .numbered ∧ m = call.message k) :
    Sound (moves ++ [move]) w' where
  kept := hkept
  next := by rw [hchannel, hlength]; exact h.next
  closed hnow := by
    rw [hchannel] at hnow
    exact (h.closed hnow).imp fun _ => List.mem_append_left _
  carried m' hm' id hid := by
    rw [haccepted, List.mem_append, List.mem_singleton] at hm'
    rcases hm' with hm' | rfl
    · exact hstep ▸ h.carried_step move hm' hid
    · exact (hnew id hid).2
  distinct := by
    rw [haccepted, List.filterMap_append]
    cases hid : id? m with
    | none =>
      rw [List.filterMap_cons_none hid, List.filterMap_nil, List.append_nil]
      exact h.distinct
    | some id =>
      rw [List.filterMap_cons_some hid, List.filterMap_nil]
      exact List.Nodup.append h.distinct (List.nodup_singleton id)
        (List.disjoint_singleton.2 (hnew id hid).1)
  stored := by
    rw [reach, hchannel, haccepted, htaken, ← List.append_assoc]
    exact h.stored.append (.refl [m])

/-- When one call comes to something, all that is known of the others stays known. -/
theorem Sound.kept_set (h : Sound moves w) (move : Move) {call' : Call}
    (hreach : ∀ j, Awaits w.reach j → Awaits w'.reach j) (hcalls : w'.calls = w.calls.set k call')
    (hkept : call'.Kept (moves ++ [move]) w' k) :
    ∀ (j : Nat) (other : Call), w'.calls[j]? = some other →
      other.Kept (moves ++ [move]) w' j := by
  intro j other hother
  rw [hcalls] at hother
  by_cases hkj : k = j
  · subst hkj
    have hk : k < w.calls.length := by
      have hset := (List.getElem?_eq_some_iff.1 hother).1
      rwa [List.length_set] at hset
    obtain rfl : call' = other :=
      Option.some.inj ((List.getElem?_set_self hk).symm.trans hother)
    exact hkept
  · rw [List.getElem?_set_ne hkj] at hother
    exact (h.kept j other hother).mono move fun _ => hreach j

theorem awaits_accept (w : Traffic) (m : Message Waiter Unit) (j : Nat) :
    Awaits (w.accept m).reach j ↔ Awaits w.reach j ∨ Awaits [m] j := by
  have hreach : (w.accept m).reach = w.reach ++ [m] := (List.append_assoc ..).symm
  rw [hreach, awaits_append]

/-- A request that comes in is the first one of its call. -/
theorem Sound.step_accept (h : Sound moves w) (hcall : w.calls[k]? = some call)
    (hnumbered : call.stage = .numbered) {stage : Stage} (hbegun : stage ≠ .numbered)
    (hstep : w.step (.send k) = (w.accept (call.message k)).become k (call.at stage))
    (hkept : (call.at stage).Kept (moves ++ [.send k]) (w.accept (call.message k)) k) :
    Sound (moves ++ [.send k]) ((w.accept (call.message k)).become k (call.at stage)) := by
  have hk : k < w.calls.length := (List.getElem?_eq_some_iff.1 hcall).1
  refine h.of_accept _ _ hstep ?_ List.length_set rfl rfl rfl ?_
  · refine h.kept_set _ (fun j hj => (awaits_accept w _ j).2 (.inl hj)) rfl ?_
    exact ⟨hkept.id, hkept.waits, hkept.heard⟩
  · intro id hid
    obtain rfl : call.id = id := Option.some.inj hid
    exact ⟨h.fresh hcall hnumbered, k, _, List.getElem?_set_self hk, hbegun, rfl⟩

/-- A call whose request does not come in is over. -/
theorem Sound.step_refuse (h : Sound moves w) {stage : Stage}
    (hstep : w.step (.send k) = w.become k (call.at stage))
    (hkept : (call.at stage).Kept (moves ++ [.send k]) w k) :
    Sound (moves ++ [.send k]) (w.become k (call.at stage)) := by
  refine h.of_step _ hstep ?_ List.length_set rfl .inl rfl (.refl _)
  refine h.kept_set _ (fun _ => id) rfl ?_
  exact ⟨hkept.id, hkept.waits, hkept.heard⟩

theorem Sound.step_send (h : Sound moves w) (hcall : w.calls[k]? = some call)
    (hnumbered : call.stage = .numbered) :
    Sound (moves ++ [.send k]) (w.step (.send k)) := by
  have hid : call.id = k + 1 := (h.kept k call hcall).id
  have hsends : Sends w k call (w.step (.send k)) := by
    rw [Traffic.step_send hcall hnumbered]
    exact sends_send w k call
  generalize hstep : w.step (.send k) = w' at hsends
  cases hsends with
  | sent hwaits hopen =>
    refine h.step_accept hcall hnumbered nofun hstep ⟨hid, fun _ => ⟨hwaits, ?_⟩,
      fun _ _ hended => nomatch hended⟩
    exact (awaits_accept w _ k).2 (.inr (call.awaits_message hwaits k))
  | posted hposts hopen hroom =>
    exact h.step_accept hcall hnumbered nofun hstep
      ⟨hid, nofun, fun _ _ _ hwaits => absurd hposts hwaits⟩
  | full hposts hopen hfull =>
    exact h.step_refuse hstep ⟨hid, nofun, fun _ _ _ hwaits => absurd hposts hwaits⟩
  | closed hposts hclosed =>
    exact h.step_refuse hstep ⟨hid, nofun, fun _ _ _ hwaits => absurd hposts hwaits⟩
  | unsent hwaits hclosed =>
    refine h.step_refuse hstep ⟨hid, nofun, fun reply answer hended _ => ?_⟩
    obtain ⟨rfl, rfl⟩ := Stage.ended.inj hended
    exact ⟨rfl, .inr ⟨rfl, (h.closed hclosed).imp fun _ => List.mem_append_left _⟩⟩

/-- Whatever the receiver does, a call that hears of it has heard what was said. -/
theorem Sound.step_tell (h : Sound moves w) (aside : Aside) :
    Sound (moves ++ [.tell aside]) (w.step (.tell aside)) := by
  cases hopen : w.channel.isOpen with
  | true =>
    have hstep : w.step (.tell aside) = w.accept aside.message := by
      simp [step, Channel.put, hopen, accept]
    rw [hstep]
    refine h.of_accept _ _ hstep (fun j other hother => ?_) rfl rfl rfl rfl ?_
    · exact (h.kept j other hother).mono _ fun _ hj => (awaits_accept w _ j).2 (.inl hj)
    · intro id hid
      exact nomatch (Aside.id?_message aside).symm.trans hid
  | false => exact h.of_idle _ (by simp [step, Channel.put, hopen, enter])

theorem Sound.step_take (h : Sound moves w) : Sound (moves ++ [.take]) (w.step .take) := by
  cases hmailbox : w.channel.mailbox with
  | nil => exact h.of_idle _ (by simp [step, Channel.take?, hmailbox])
  | cons m rest =>
    have hstep : w.step .take =
        { w with channel := { w.channel with mailbox := rest }, taken := w.taken ++ [m] } := by
      simp [step, Channel.take?, hmailbox]
    have hreach : (w.step .take).reach = w.reach := by
      rw [hstep]
      simp [reach, hmailbox]
    rw [hstep] at hreach ⊢
    refine h.of_step _ hstep (fun j other hother => ?_) rfl rfl .inl rfl (hreach ▸ .refl _)
    exact (h.kept j other hother).mono _ fun _ hj => hreach ▸ hj

theorem Sound.step_answer (h : Sound moves w) (k : Nat) (reply : Option Reply) :
    Sound (moves ++ [.answer k reply]) (w.step (.answer k reply)) := by
  by_cases htaken : Awaits w.taken k
  · have hstep : w.step (.answer k reply) = { w with calls := w.calls.modify k (Call.hear reply) } :=
      if_pos htaken
    rw [hstep]
    refine h.of_step _ hstep (fun j other hother => ?_) (List.length_modify ..) rfl .inl rfl (.refl _)
    by_cases hkj : k = j
    · subst hkj
      obtain ⟨call, hcall, rfl⟩ :=
        Option.map_eq_some_iff.1 ((List.getElem?_modify_eq ..).symm.trans hother)
      exact (h.kept k call hcall).hear _
        (.inl (List.mem_append_right _ (List.mem_singleton_self _)))
    · have hold : w.calls[j]? = some other := (List.getElem?_modify_ne _ _ hkj).symm.trans hother
      exact (h.kept j other hold).mono _ fun _ => id
  · exact h.of_idle _ (if_neg htaken)

theorem Sound.step_close (h : Sound moves w) (reading : Bool) :
    Sound (moves ++ [.close reading]) (w.step (.close reading)) := by
  generalize hkeep : (if reading then w.channel.capacity else 0) = keep
  have hstep : w.step (.close reading) = w.quit keep := hkeep ▸ rfl
  have hclose : Move.close reading ∈ moves ++ [.close reading] :=
    List.mem_append_right _ (List.mem_singleton_self _)
  rw [hstep]
  refine h.of_step _ hstep (fun j other hother => ?_) List.length_mapIdx rfl
    (fun _ => .inr ⟨reading, rfl⟩) rfl ((List.Sublist.refl _).append (List.take_sublist _ _))
  obtain ⟨call, hcall, rfl⟩ :=
    Option.map_eq_some_iff.1 ((List.getElem?_mapIdx ..).symm.trans hother)
  show (call.lose j (w.channel.mailbox.drop keep)).Kept _ _ _
  by_cases hgone : Awaits (w.channel.mailbox.drop keep) j
  · rw [Call.lose, if_pos hgone]
    exact (h.kept j call hcall).hear _ (.inr ⟨rfl, reading, hclose⟩)
  · rw [Call.lose, if_neg hgone]
    refine (h.kept j call hcall).mono _ fun _ hawaits => awaits_append.2 ?_
    refine (awaits_append.1 hawaits).imp_right fun hmailbox => ?_
    rw [← List.take_append_drop keep w.channel.mailbox, awaits_append] at hmailbox
    exact hmailbox.resolve_right hgone

theorem Sound.step (h : Sound moves w) (move : Move) : Sound (moves ++ [move]) (w.step move) := by
  cases move with
  | start clone manner request => exact h.step_start clone manner request
  | send k =>
    cases hcall : w.calls[k]? with
    | none => exact h.of_idle _ (by rw [Traffic.step, hcall])
    | some call =>
      by_cases hnumbered : call.stage = .numbered
      · exact h.step_send hcall hnumbered
      · exact h.of_idle _ (by rw [Traffic.step, hcall]; exact if_neg hnumbered)
  | tell aside => exact h.step_tell aside
  | take => exact h.step_take
  | answer k reply => exact h.step_answer k reply
  | close reading => exact h.step_close reading

theorem sound_run (tenant : Tenant) (capacity : Nat) (moves : List Move) :
    Sound moves (run tenant capacity moves) := by
  induction moves using List.reverseRecOn with
  | nil => exact sound_new tenant capacity
  | append_singleton moves move ih =>
    rw [run_append]
    exact ih.step move

/-! ## The answers -/

/-- A caller that blocks makes of a reply what one makes that does not. -/
theorem Call.result_eq (call : Call) (reply : Option Reply) :
    call.result reply = call.request.expects.read call.id reply := by
  rw [Call.result]
  split
  · exact call.request.expects.readBlocking_eq call.id reply
  · rfl
  · rfl

theorem Call.reads_result (call : Call) (reply : Option Reply) :
    Reads call.id reply call.request.expects (call.result reply) := by
  rw [call.result_eq]
  exact call.request.expects.reads_read call.id reply

/-- An answer to a call that has waited for it is the end of that call, and nothing else. -/
theorem step_answer_sent (hcall : w.calls[k]? = some call) (hsent : call.stage = .sent)
    (htaken : Awaits w.taken k) (reply : Option Reply) :
    w.step (.answer k reply) = w.become k (call.over reply) := by
  have hk : k < w.calls.length := (List.getElem?_eq_some_iff.1 hcall).1
  have hhear : call.hear reply = call.over reply := if_pos hsent
  have hget : w.calls[k] = call := (List.getElem?_eq_some_iff.1 hcall).2
  rw [Traffic.step, if_pos htaken, List.modify_eq_set_getElem? , hcall, become, ← hhear]
  rfl

/-- A call whose request is lost with the mailbox comes to its end without an answer. -/
theorem step_close_lost (hcall : w.calls[k]? = some call) (hsent : call.stage = .sent)
    {reading : Bool}
    (hlost : Awaits (w.channel.mailbox.drop (if reading then w.channel.capacity else 0)) k) :
    (w.step (.close reading)).calls[k]? = some (call.over none) := by
  refine (List.getElem?_mapIdx ..).trans ?_
  rw [hcall]
  show some (call.lose k _) = some (call.over none)
  rw [Call.lose, if_pos hlost, Call.hear, if_pos hsent]

/-- A call that is over stays as it is. -/
theorem step_ended (hcall : w.calls[k]? = some call) (hended : call.stage = .ended reply answer)
    (move : Move) : (w.step move).calls[k]? = some call := by
  obtain ⟨call', hcall', hturns⟩ := turns_step move hcall
  cases hturns with
  | refl => exact hcall'
  | «at» stage hbegun hgoing => exact absurd hended (hgoing reply answer)

/-- A post that is refused leaves the mailbox as it was. -/
theorem Sends.channel_of_refused (h : Sends w k call w') (hk : k < w.calls.length)
    {fault : ServiceFault} (hrefused : w'.calls[k]? = some (call.posted (some fault))) :
    w'.channel = w.channel := by
  cases h with
  | sent hwaits hopen =>
    have heq := Option.some.inj ((List.getElem?_set_self hk).symm.trans hrefused)
    exact nomatch congrArg Call.stage heq
  | posted hposts hopen hroom =>
    have heq := Option.some.inj ((List.getElem?_set_self hk).symm.trans hrefused)
    exact nomatch congrArg Call.stage heq
  | full | closed | unsent => rfl

/-- Nothing is mixed up on a channel, when these moves have been made. -/
structure Correlated (moves : List Move) (w : Traffic) : Prop where
  /-- The calls have the numbers from one on, whatever has become of them. -/
  numbers : w.calls.map Call.id = List.range' 1 w.calls.length
  /-- The next call will have the next number. -/
  next : w.channel.nextId = w.calls.length + 1
  /-- What has come into the mailbox under a number is the request of the call with this number. -/
  requests : ∀ m ∈ w.accepted, ∀ id, id? m = some id →
    ∃ (k : Nat) (call : Call), w.calls[k]? = some call ∧ m = call.message k
  /-- No two requests with the same number have come into the mailbox. -/
  distinct : (w.accepted.filterMap id?).Nodup
  /-- The receiver takes nothing else out of it, nor anything twice, and leaves the order as it is. -/
  stored : (w.taken ++ w.channel.mailbox).Sublist w.accepted
  /-- This is what it comes to that a request is sent. -/
  sends : ∀ (k : Nat) (call : Call), w.calls[k]? = some call → call.stage = .numbered →
    Sends w k call (w.step (.send k))
  /-- What is posted at once is posted to the channel, and comes to what that tells. -/
  posts : ∀ (clone : Nat) (request : Request),
    (w.place clone .posting request).channel = (w.channel.post request).1 ∧
      (w.place clone .posting request).calls =
        w.calls ++ [(w.nextCall clone .posting request).posted (w.channel.post request).2]
  /-- What is sent at once is a call on the channel, and waits if there is a mailbox. -/
  placed : ∀ (clone : Nat) (manner : Manner) (request : Request), manner ≠ .posting →
    (w.place clone manner request).channel =
        (w.channel.call request fun _ => .call w.calls.length).1 ∧
      (w.place clone manner request).calls =
        w.calls ++ [if (w.channel.call request fun _ => .call w.calls.length).2 then
          (w.nextCall clone manner request).at .sent
        else (w.nextCall clone manner request).over none]
  /-- A receiver that goes away closes the channel. -/
  closes : (w.step (.close false)).channel = w.channel.close
  /-- A post that is refused leaves the mailbox as it was. -/
  refused : ∀ (k : Nat) (call : Call) (fault : ServiceFault), w.calls[k]? = some call →
    call.stage = .numbered → (w.step (.send k)).calls[k]? = some (call.posted (some fault)) →
    (w.step (.send k)).channel = w.channel
  /-- A call that waits can still be answered, or its request is still in the mailbox. -/
  waits : ∀ (k : Nat) (call : Call), w.calls[k]? = some call → call.stage = .sent →
    Awaits (w.taken ++ w.channel.mailbox) k
  /-- An answer to a call is the end of it, and changes nothing else. -/
  answers : ∀ (k : Nat) (call : Call) (reply : Option Reply), w.calls[k]? = some call →
    call.stage = .sent → Awaits w.taken k →
    w.step (.answer k reply) = w.become k (call.over reply)
  /-- A call whose request is lost with the mailbox gets no answer. -/
  lost : ∀ (k : Nat) (call : Call) (reading : Bool), w.calls[k]? = some call →
    call.stage = .sent →
    Awaits (w.channel.mailbox.drop (if reading then w.channel.capacity else 0)) k →
    (w.step (.close reading)).calls[k]? = some (call.over none)
  /-- A call that is over heard what was answered to it, or nothing since the mailbox was closed;
  and its result is what is to be read off that. -/
  heard : ∀ (k : Nat) (call : Call) (reply : Option Reply) (answer : Answer),
    w.calls[k]? = some call → call.stage = .ended reply answer → call.manner ≠ .posting →
    Reads call.id reply call.request.expects answer ∧
      (.answer k reply ∈ moves ∨ reply = none ∧ ∃ reading, .close reading ∈ moves)
  /-- A call that is over stays as it is. -/
  final : ∀ (k : Nat) (call : Call) (reply : Option Reply) (answer : Answer) (move : Move),
    w.calls[k]? = some call → call.stage = .ended reply answer →
    (w.step move).calls[k]? = some call
  /-- A blocking call comes to the same as one that awaits the same reply. -/
  blocking : ∀ (call : Call) (reply : Option Reply),
    { call with manner := .blocking }.result reply = { call with manner := .awaiting }.result reply

/-- **Nothing is mixed up on a channel**, however many callers share it, in whatever order they
take numbers and send their requests, and whatever the receiver does. -/
theorem correlated_of_run (tenant : Tenant) (capacity : Nat) (moves : List Move) :
    Correlated moves (run tenant capacity moves) := by
  have h := sound_run tenant capacity moves
  generalize run tenant capacity moves = w at h
  exact {
    numbers := by
      refine List.ext_getElem? fun k => ?_
      rw [List.getElem?_map]
      cases hcall : w.calls[k]? with
      | none =>
        have hk : w.calls.length ≤ k := List.getElem?_eq_none_iff.1 hcall
        exact (List.getElem?_eq_none (by rwa [List.length_range'])).symm
      | some call =>
        have hk : k < w.calls.length := (List.getElem?_eq_some_iff.1 hcall).1
        rw [List.getElem?_range' hk, Option.map_some, (h.kept k call hcall).id]
        congr 1
        omega
    next := h.next
    requests := fun m hm id hid => by
      obtain ⟨k, call, hcall, -, hmessage⟩ := h.carried m hm id hid
      exact ⟨k, call, hcall, hmessage⟩
    distinct := h.distinct
    stored := h.stored
    sends := fun k call hcall hnumbered => step_send hcall hnumbered ▸ sends_send w k call
    posts := w.place_posting
    placed := fun clone manner request hwaits => w.place_waiting clone hwaits request
    closes := w.step_close
    refused := fun k call fault hcall hnumbered => by
      rw [step_send hcall hnumbered]
      exact (sends_send w k call).channel_of_refused (List.getElem?_eq_some_iff.1 hcall).1
    waits := fun k call hcall hsent => ((h.kept k call hcall).waits hsent).2
    answers := fun k call reply hcall hsent htaken => step_answer_sent hcall hsent htaken reply
    lost := fun k call reading hcall hsent => step_close_lost hcall hsent
    heard := fun k call reply answer hcall hended hwaits => by
      obtain ⟨rfl, hwhy⟩ := (h.kept k call hcall).heard reply answer hended hwaits
      exact ⟨call.reads_result reply, hwhy⟩
    final := fun k call reply answer move hcall hended => step_ended hcall hended move
    blocking := fun call reply => by rw [Call.result_eq, Call.result_eq] }

end Traffic

end DataPath
