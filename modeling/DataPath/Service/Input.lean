import DataPath.Service.Basic

/-!
# What the service is asked from outside

Clients call the arbiter and the switches, observers subscribe to notices, and the
modem can be steered past the switches.  A call is known by a number that its maker
chose, and its answer is found in the journal under that number.
-/

namespace DataPath.Service

/-- What is asked of the service from outside. -/
inductive Input where
  /-- Call the switch of a tenant. -/
  | call (tenant : Tenant) (request : Request)
  /-- Post a request to the switch of a tenant. -/
  | post (tenant : Tenant) (request : Request)
  /-- Tell the switch of a tenant to stop. -/
  | stopSwitch (tenant : Tenant)
  /-- Subscribe to the notices of the switch of a tenant. -/
  | subscribe (tenant : Tenant) (filter : NoticeFilter)
  | activate (tenant : Tenant) (dataClass : DataClass)
  | deactivate (tenant : Tenant) (dataClass : DataClass)
  | setDefaultTenant (tenant : Option Tenant)
  | status
  /-- Tell the arbiter to stop. -/
  | stopArbiter
  /-- Ask whether the modem can carry a class on a slot at all. -/
  | isPossible (tenant : Tenant) (dataClass : DataClass)
  /-- Steer the modem. -/
  | steer (control : Control)
  /-- Tell the arbiter and all switches to stop. -/
  | shutdown
  /-- Ask nothing. -/
  | nothing
  deriving DecidableEq, Repr

/-- Put a message into the mailbox of a tenant, if it is there. -/
def mail (s : Service) (t : Tenant) (message : Message Caller Sink) : Service :=
  (s.amend t fun post => { post with channel := (post.channel.put message).1 }).wake (.station t)

/-- Whether the switch of a tenant is there and has not stopped. -/
def isServed (s : Service) (t : Tenant) : Bool := (s.post? t).any (·.channel.isOpen)

/-- The service after it was asked something, under a number. -/
def accept (s : Service) (number : Nat) : Input → Service
  | .call t request => match s.post? t with
    | none => s.finish number .noSwitch
    | some post =>
      let (channel, sent) := post.channel.call request fun id => .call number id request.expects
      let s := s.amend t fun post => { post with channel := channel }
      if sent then s.wake (.station t) else s.finish number (request.expects.read 0 none)
  | .post t request => match s.post? t with
    | none => s.finish number .noSwitch
    | some post =>
      let (channel, fault) := post.channel.post request
      ((s.amend t fun post => { post with channel := channel }).wake (.station t)).finish number
        (fault.elim .done .fault)
  | .stopSwitch t => match s.post? t with
    | none => s.finish number .noSwitch
    | some _ => (s.mail t .shutdown).finish number .nothing
  | .subscribe t filter =>
    let observer := s.nextObserver
    let s := { s with nextObserver := observer + 1 }
    match s.post? t with
    | none => s.finish number .noSwitch
    | some _ =>
      if s.isServed t then
        s.mail t (.subscribe filter (.observer observer) (.subscription number t))
      else s.finish number (.fault (.closed t))
  | .activate t c => s.command (.activate t c (.call number))
  | .deactivate t c => s.command (.deactivate t c (.call number))
  | .setDefaultTenant t => s.command (.setDefaultTenant t (.call number))
  | .status => s.command (.status (.call number))
  | .stopArbiter => (s.command .shutdown).finish number .nothing
  | .isPossible t c =>
    s.finish number
      (.flag (t.slot < s.posts.length && s.modemRuns && s.pipeline.modem.supports t c))
  | .steer control =>
    if s.modemRuns then { s with controls := s.controls ++ [control] }.wake .modem else s
  | .shutdown =>
    (s.posts.foldl (fun s post => s.mail post.channel.tenant .shutdown)
      (s.command .shutdown)).finish number .done
  | .nothing => s

end DataPath.Service
