import RulePlane.Host.State

/-!
# Scheduling

A task that is ready goes on in small steps until it has to wait: for a request, an event or a
push, for room on a stream or in a queue, or for a time to pass. Tasks take turns in the order in
which they became ready. When none is ready, the time passes until the next one wakes; when there
is nothing to wake up for, the host has settled.

A caller from outside waits in the same way, but when what it waits for is done, it goes on before
all tasks.
-/

namespace RulePlane

namespace Host

/-- What a task does after a step. -/
inductive Turn where
  /-- It goes on at once. -/
  | again
  /-- It waits until it is made ready. -/
  | idle
deriving DecidableEq, Repr

/-- Replace the request side of a transport stream. -/
def withTransport (stream : StreamId) (conversation : Conversation Transport.Request)
    (host : Host) : Host :=
  { host with transport := host.transport.insert stream conversation }

/-- Replace the request side of a discovery stream. -/
def withDiscovery (stream : StreamId) (conversation : DiscoveryConversation) (host : Host) :
    Host :=
  { host with discovery := host.discovery.insert stream conversation }

/-- Replace the task of a kind. -/
def withLoop (kind : Kind) (loop : WatchLoop) (host : Host) : Host :=
  { host with loops := host.loops.insert kind loop }

/-- Let a task go on with an activity until that is finished, or a send has to wait for room. -/
def proceed (task : Task) : Activity Posting Plane (Except PushError Unit) → Host → Turn × Host
  | .finished result plane, host =>
      let host := host.withPlane plane
      if task = .caller then (.idle, { host with answer := some result }) else (.again, host)
  | .sending stream millis posting plane resume, host =>
      if plane.isCrowded (host.sendsAhead task stream) stream posting then
        if millis = 0 then proceed task (resume .timedOut plane) host
        else
          let waiting : Suspended := ⟨task, stream, posting, plane.millis + millis, resume⟩
          let host := host.withPlane plane
          (.idle, { host with suspended := host.suspended ++ [waiting] })
      else
        let (outcome, plane) := plane.offer stream posting
        proceed task (resume outcome plane) host

/-- Let a task begin an activity, whatever comes of it. -/
def begin (task : Task) (activity : Activity Posting Plane Unit) (host : Host) : Turn × Host :=
  host.proceed task (activity.map fun _ => .ok ())

/-- A step of a task that is suspended: go on if there is room, or if there was none until the
    time. -/
def stepSuspended (waiting : Suspended) (host : Host) : Turn × Host :=
  let released :=
    { host with suspended := host.suspended.filter fun each => each.task ≠ waiting.task }
  if !host.isCrowded waiting.task waiting.stream waiting.posting then
    let (outcome, plane) := host.plane.offer waiting.stream waiting.posting
    released.proceed waiting.task (waiting.resume outcome plane)
  else if waiting.deadline ≤ host.plane.millis then
    released.proceed waiting.task (waiting.resume .timedOut host.plane)
  else (.idle, host)

/-- A step in the service of a transport stream: begin, handle a request, or end when the client has
    ended or the host is shutting down. -/
def stepTransport (stream : StreamId) (host : Host) : Turn × Host :=
  match host.transport.find? stream with
  | none => (.idle, host)
  | some conversation =>
      match conversation.service, conversation.requests with
      | .unserved, _ => (.idle, host)
      | .finished, _ => (.idle, host)
      | .starting, _ =>
          (.again,
            (host.withTransport stream { conversation with service := .serving }).withPlane
              host.plane.beginTransport)
      | .serving, request :: rest =>
          (host.withTransport stream { conversation with requests := rest }).begin
            (.transport stream) (host.plane.handlingTransport stream request)
      | .serving, [] =>
          if conversation.ended || host.draining then
            (.idle,
              (host.withTransport stream { conversation with service := .finished }).withPlane
                (host.plane.finishTransport stream))
          else (.idle, host)

/-- A step in the reading of a discovery stream: hand over a request if the one before it was taken,
    or stop the stream when its client has ended or its service is over. -/
def stepReader (stream : StreamId) (host : Host) : Turn × Host :=
  match host.discovery.find? stream with
  | none => (.idle, host)
  | some conversation =>
      let stop : Turn × Host :=
        (.idle,
          ((host.withDiscovery stream { conversation with readerDone := true }).withPlane
            (host.plane.stopDiscovery stream)).wake (.discovery stream))
      if conversation.readerDone then (.idle, host)
      else if conversation.service = .finished then stop
      else
        match conversation.requests, conversation.handedOver with
        | request :: rest, none =>
            (.again,
              (host.withDiscovery stream
                { conversation with requests := rest, handedOver := some request }).wake
                  (.discovery stream))
        | _ :: _, some _ => (.idle, host)
        | [], _ =>
            if conversation.ended || !host.plane.discoveryValid stream then stop
            else (.idle, host)

/-- End the service of a discovery stream. -/
def finishDiscovery (stream : StreamId) (conversation : DiscoveryConversation) (host : Host) :
    Host :=
  ((host.withDiscovery stream { conversation with service := .finished }).withPlane
    (host.plane.finishDiscovery stream)).wake (.reader stream)

/-- A step in the service of a discovery stream: begin, take the request that was handed over, or
    end when there will be no more, the stream was stopped or the host is shutting down. The first
    request names the stream. -/
def stepDiscovery (stream : StreamId) (host : Host) : Turn × Host :=
  match host.discovery.find? stream with
  | none => (.idle, host)
  | some conversation =>
      let isNamed := host.plane.discoveryNamed stream
      match conversation.service, conversation.handedOver with
      | .unserved, _ => (.idle, host)
      | .finished, _ => (.idle, host)
      | .starting, _ =>
          (.again,
            ((host.withDiscovery stream
              { conversation with service := .serving }).withPlane
                host.plane.beginDiscovery).wake (.reader stream))
      | .serving, some request =>
          let plane :=
            if isNamed then host.plane else host.plane.nameDiscovery stream request
          ((host.withDiscovery stream { conversation with handedOver := none }).wake
            (.reader stream)).begin (.discovery stream) (plane.handlingDiscovery stream request)
      | .serving, none =>
          let isStopped := isNamed && !host.plane.discoveryValid stream
          if conversation.readerDone || isStopped || host.draining then
            (.idle, host.finishDiscovery stream conversation)
          else (.idle, host)

/-- The worker of a push. -/
def workerOf (host : Host) (push : Push) : Nat :=
  host.plane.dispatcher.workerOf App.spread push.target.app

/-- Hand a push of a kind to its worker. If there is no room in the queue, or others are in line for
    it, the push is blocked. -/
def submit (kind : Kind) (push : Push) (host : Host) : Turn × Host :=
  let worker := host.workerOf push
  let ahead := host.blocked.takeWhile fun entry => entry.1 ≠ kind
  let dispatcher := host.plane.dispatcher
  let places := dispatcher.capacity - (dispatcher.queue worker).length
  if !dispatcher.stopped && places ≤ ahead.countP fun entry => host.workerOf entry.2 = worker then
    (.idle, { host with
      blocked := ahead ++ (kind, push) :: host.blocked.drop (ahead.length + 1) })
  else
    let host := { host with blocked := host.blocked.filter fun entry => entry.1 ≠ kind }
    (.again, (host.withPlane (host.plane.submit push).2).wake (.worker worker))

/-- A step in following the watch of a kind: hand the rules of a changed application to the
    dispatcher, take a change into account, or receive what the watch yields. A failure is followed
    by a pause. -/
def stepWatch (kind : Kind) (host : Host) : Turn × Host :=
  match host.loop? kind, host.blocked.find? fun entry => entry.1 = kind with
  | none, _ => (.idle, host)
  | some _, some (_, push) => host.submit kind push
  | some loop, none =>
      if loop.wakeAt.any fun time => host.plane.millis < time then (.idle, host)
      else
        let loop := { loop with wakeAt := none }
        match loop.apps, loop.changes, loop.items with
        | app :: rest, _, _ =>
            (host.withLoop kind { loop with apps := rest }).submit kind
              (host.plane.currentPush kind app)
        | [], change :: rest, _ =>
            let (apps, plane) := host.plane.notice kind change
            (.again, (host.withLoop kind { loop with apps, changes := rest }).withPlane plane)
        | [], [], .event event :: rest =>
            let (changes, tracker) := loop.tracker.step event
            (.again, host.withLoop kind { loop with tracker, changes, items := rest })
        | [], [], .failure :: rest =>
            let time := host.plane.millis + 1000 * Watch.pause
            (.idle, host.withLoop kind { loop with items := rest, wakeAt := some time })
        | [], [], [] => (.idle, host.withLoop kind loop)

/-- A step of a worker: publish a push of its queue. Those that wait for room in the queue find
    some. -/
def stepWorker (worker : Nat) (host : Host) : Turn × Host :=
  match host.plane.working? worker with
  | none => (.idle, host)
  | some activity =>
      let waiting := host.blocked.filter fun entry => host.workerOf entry.2 = worker
      (host.wakeAll (waiting.map fun entry => .watch entry.1)).begin (.worker worker) activity

/-- A step of a task. -/
def stepTask (task : Task) (host : Host) : Turn × Host :=
  match host.suspended.find? fun each => each.task = task with
  | some waiting => host.stepSuspended waiting
  | none =>
      match task with
      | .caller => (.idle, host)
      | .transport stream => host.stepTransport stream
      | .reader stream => host.stepReader stream
      | .discovery stream => host.stepDiscovery stream
      | .watch kind => host.stepWatch kind
      | .worker number => host.stepWorker number

/-- A step of the first task that is ready. -/
def step (host : Host) : Host :=
  match host.ready with
  | [] => host
  | task :: rest =>
      match stepTask task { host with ready := rest } with
      | (.again, host) => { host with ready := task :: host.ready.filter (· ≠ task) }
      | (.idle, host) => host

/-- Let ready tasks go on, for a number of steps at most and until the caller has its answer. -/
def runSteps : Nat → Host → Host
  | 0, host => host
  | steps + 1, host =>
      if host.ready.isEmpty || host.answer.isSome then host else runSteps steps host.step

/-- The tasks that are there, and everything that they have to deal with: what waits, and what a
    complete list may take away. -/
def load (host : Host) : Nat :=
  let loops := host.loops.values
  host.ready.length + host.transport.size + host.discovery.size +
    (host.transport.values.flatMap fun each => each.requests).length +
    (host.discovery.values.flatMap fun each => each.requests).length +
    2 * (loops.flatMap fun loop => loop.tracker.known).length +
    4 * (loops.flatMap fun loop => loop.items).length +
    2 * (loops.flatMap fun loop => loop.changes).length +
    (loops.flatMap fun loop => loop.apps).length +
    host.plane.dispatcher.queues.values.flatten.length +
    host.suspended.length + host.blocked.length

/-- Let ready tasks go on until none is ready or the caller has its answer. -/
def runReady (host : Host) : Host := runSteps (16 * (host.load + 1) * (host.load + 1)) host

/-- The tasks that will wake up by themselves, each with the time, in the order in which they go on
    at the same time: the caller, those that are suspended, and those that pause. -/
def alarms (host : Host) : List (Nat × Task) :=
  let sends := host.suspended.map fun each => (each.deadline, each.task)
  let pauses := host.loops.entries.filterMap fun entry =>
    entry.2.wakeAt.map fun time => (time, Task.watch entry.1)
  let all := sends.filter (fun alarm => alarm.2 = .caller) ++
    sends.filter (fun alarm => alarm.2 ≠ .caller) ++ pauses
  all.filter fun alarm => host.plane.millis < alarm.1

/-- Let the time pass until a task wakes up, and make ready all that do. -/
def wakeNext (host : Host) : Host :=
  match (host.alarms.map Prod.fst).min? with
  | none => host
  | some time =>
      let due := host.alarms.filter fun alarm => alarm.1 = time
      { host with plane := { host.plane with millis := time } }.wakeAll (due.map Prod.snd)

/-- Let tasks go on and the time pass, for a number of rounds at most. -/
def settleRounds : Nat → Host → Host
  | 0, host => host.runReady
  | rounds + 1, host =>
      let host := host.runReady
      if host.alarms.isEmpty || host.answer.isSome then host
      else settleRounds rounds host.wakeNext

/-- More rounds than a host needs to settle, as each round ends a pause or an attempt to send. -/
def mostRounds : Nat := Nat.pow 2 62

/-- Let everything happen that is bound to happen, or as much as the caller waits for. -/
def settle (host : Host) : Host := settleRounds mostRounds host

/-- Let the caller wait until an activity is finished, and tell how long that took. -/
def call (activity : Activity Posting Plane (Except PushError Unit)) (host : Host) :
    (Except PushError Unit × Nat) × Host :=
  let reached := (host.proceed .caller activity).2.settle
  ((reached.answer.getD (.ok ()), reached.plane.millis - host.plane.millis),
    { reached with answer := none })

/-- Publish a push by one protocol, and tell how long that took. -/
def publish (protocol : Protocol) (push : Push) (host : Host) :
    (Except PushError Unit × Nat) × Host :=
  host.call (host.plane.publishing protocol push)

/-- Send rules on one discovery stream, and tell how long that took. -/
def pushTo (stream : StreamId) (typeUrl : String) (rules : List Rule) (timeoutMillis : Nat)
    (host : Host) : (Except PushError Unit × Nat) × Host :=
  host.call (host.plane.sendingDiscovery timeoutMillis stream typeUrl rules)

end Host

end RulePlane
