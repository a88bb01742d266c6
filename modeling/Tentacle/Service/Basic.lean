import Tentacle.Config

/-!
# Service の状態と、session を閉じる側の操作

`struct Service` の field のうち、service 自身の判断に効くものを持つ。
`multi_transport`・`igd_client`・`handle`・channel の sender と receiver の本体・`wait_handle` は
持たない。receiver は閉じたかどうかだけを持つ。

操作は `Op`：次の状態と、外に起こしたこと（`Effect`）の列を返す関数である。
ここには閉じる側の操作を置く。`distribute_to_user_level` は handler の buffer が死んでいると
`Shutdown(false)` を処理するので、`session_close` と shutdown の分岐もここに要る。
-/

namespace Tentacle

/-- `SessionController`。session に向けて積まれた event の buffer と、その `SessionContext`。 -/
structure SessionController where
  inner : SessionContext
  buffer : Buffer (Priority × SessionEvent)

namespace SessionController

/-- Modelled from the spec: `SessionController::push`。§3 の、session の event stream への
優先度つきの sender に積む。 -/
def push (c : SessionController) (priority : Priority) (event : SessionEvent) :
    SessionController :=
  { c with buffer := c.buffer.push (priority, event) }

/-- Modelled from the spec: `SessionController::push_message`。§4.7.4 の、その session の
outbound buffer に `ProtocolMessage` を積む。 -/
def pushMessage (c : SessionController) (protoId : ProtocolId) (priority : Priority)
    (data : Bytes) : SessionController :=
  c.push priority (.protocolMessage c.inner.id protoId data)

@[simp] theorem push_inner (c : SessionController) (p : Priority) (e : SessionEvent) :
    (c.push p e).inner = c.inner := rfl

@[simp] theorem pushMessage_inner (c : SessionController) (p : ProtocolId) (q : Priority)
    (d : Bytes) : (c.pushMessage p q d).inner = c.inner := rfl

end SessionController

/-- `Service` の状態。`futureTaskManager` は `future_task_manager` がまだ `Some` か、
`serviceContextListens` は `ServiceContext` に公開した listen address、
`shutdown` は共有の `AtomicBool`。 -/
structure Service where
  sessions : HashMap SessionId SessionController
  listens : HashSet Multiaddr
  dialProtocols : HashMap Multiaddr TargetProtocol
  state : State
  nextSession : SessionId
  beforeSends : HashMap ProtocolId (Bytes → Bytes)
  futureTaskManager : Bool
  futureTaskSender : Buffer FutureTask
  serviceProtoHandles : HashMap ProtocolId (Buffer ServiceProtocolEvent)
  sessionProtoHandles : HashMap (SessionId × ProtocolId) (Buffer SessionProtocolEvent)
  serviceContextListens : List Multiaddr
  serviceTaskReceiverClosed : Bool
  sessionEventReceiverClosed : Bool
  shutdown : Bool

/-- `Service::new`。 -/
def Service.new (forever : Bool) : Service where
  sessions := ∅
  listens := ∅
  dialProtocols := ∅
  state := State.new forever
  nextSession := 0
  beforeSends := ∅
  futureTaskManager := true
  futureTaskSender := Buffer.new
  serviceProtoHandles := ∅
  sessionProtoHandles := ∅
  serviceContextListens := []
  serviceTaskReceiverClosed := false
  sessionEventReceiverClosed := false
  shutdown := false

/-! ## 操作 -/

/-- service の一回の操作。次の状態と、外に起こしたことの列を返す。 -/
abbrev Op := Service → Service × List Effect

namespace Op

/-- 二つの操作を続けて行う。 -/
def seq (f g : Op) : Op := fun s =>
  let r := f s
  let r' := g r.1
  (r'.1, r.2 ++ r'.2)

/-- `for x in xs { f(x) }` の一回分。状態を渡し、起こしたことを後ろに足す。 -/
def forEachStep {α : Type} (f : α → Op) (acc : Service × List Effect) (x : α) :
    Service × List Effect :=
  let r := f x acc.1
  (r.1, acc.2 ++ r.2)

/-- `for x in xs { f(x) }`。 -/
def forEach {α : Type} (xs : List α) (f : α → Op) : Op := fun s =>
  xs.foldl (forEachStep f) (s, [])

@[simp] theorem seq_fst (f g : Op) (s : Service) : (seq f g s).1 = (g (f s).1).1 := rfl
@[simp] theorem seq_snd (f g : Op) (s : Service) : (seq f g s).2 = (f s).2 ++ (g (f s).1).2 :=
  rfl

/-- 前に起こしたことは、loop の残りに持ち越されるだけである。 -/
theorem foldl_forEachStep {α : Type} (f : α → Op) :
    ∀ (xs : List α) (s : Service) (a b : List Effect),
      xs.foldl (forEachStep f) (s, a ++ b) =
        ((xs.foldl (forEachStep f) (s, b)).1, a ++ (xs.foldl (forEachStep f) (s, b)).2)
  | [], _, _, _ => rfl
  | x :: xs, s, a, b => by
    simp only [List.foldl_cons, forEachStep, List.append_assoc]
    exact foldl_forEachStep f xs _ a _

@[simp] theorem forEach_nil {α : Type} (f : α → Op) : forEach [] f = fun s => (s, []) := rfl

@[simp]
theorem forEach_cons {α : Type} (x : α) (xs : List α) (f : α → Op) :
    forEach (x :: xs) f = seq (f x) (forEach xs f) := by
  funext s
  have := foldl_forEachStep f xs (f x s).1 (f x s).2 []
  simp only [List.append_nil] at this
  simp only [forEach, List.foldl_cons, forEachStep, List.nil_append, seq, this]

end Op

/-! ## session を閉じる -/

/-- `distribute_to_session`。各 session の buffer を `try_send` し、`Pending` なら
`SessionBlocked` を報告する。共有の shutdown flag が立っていれば何もしない。 -/
def distributeToSession (o : SendOracle) : Op := fun s =>
  if s.shutdown then (s, []) else
    ({ s with sessions := s.sessions.mapVal fun id c =>
        { c with buffer := (c.buffer.trySend (o.session id)).1 } },
     s.sessions.entries.filterMap fun e =>
      if (e.2.buffer.trySend (o.session e.1)).2.1 = .pending then
        some (.error (.sessionBlocked e.2.inner))
      else none)

/-- 外からの要求を session に渡す。session があれば優先度 High で `event` を積んで
`distribute_to_session`。`session_close`・`protocol_open`・`protocol_close` の外からの分岐は
どれもこの形である。 -/
def pushToSession (o : SendOracle) (id : SessionId) (event : SessionEvent) : Op := fun s =>
  if id ∈ s.sessions then
    distributeToSession o { s with sessions := s.sessions.modifyVal id (·.push .high event) }
  else (s, [])

/-- `session_close`。外からの要求は session に `SessionClose` を積むだけ。内からの通知は
その session の handler の buffer を捨ててから session を外し、外せたときだけ
`ServiceEvent::SessionClose` を出す。 -/
def sessionClose (o : SendOracle) (id : SessionId) : Source → Op
  | .external => pushToSession o id (.sessionClose id)
  | .internal => fun s =>
    let s := { s with sessionProtoHandles := s.sessionProtoHandles.retain fun k => id != k.1 }
    match s.sessions.lookup id with
    | some c => ({ s with sessions := s.sessions.erase id }, [.event (.sessionClose c.inner)])
    | none => (s, [])

/-- shutdown の分岐の前半。`pre_shutdown` し、listen を全部閉じ、積まれた future task を捨てる。
`quick` なら二つの receiver を閉じ、handler の buffer を捨てる。 -/
def shutdownDrain (quick : Bool) : Op := fun s =>
  let s' := { s with state := s.state.preShutdown, listens := ∅, futureTaskSender := Buffer.new }
  (if quick then
    { s' with serviceTaskReceiverClosed := true, sessionEventReceiverClosed := true,
              serviceProtoHandles := ∅, sessionProtoHandles := ∅ }
   else s',
   s.listens.keys.map fun address => .event (.listenClose address))

/-- `handle_service_task` の `ServiceTask::Shutdown(quick)` の分岐。`shutdownDrain` の後、
残っている session を、`quick` なら内から、そうでなければ外から閉じる。 -/
def handleShutdown (o : SendOracle) (quick : Bool) : Op :=
  Op.seq (shutdownDrain quick) fun s =>
    Op.forEach s.sessions.keys (fun i => sessionClose o i (if quick then .internal else .external)) s

/-- handler の buffer の `try_send` の結果の報告。`Pending` は `Block`、`Disconnect` は
`AbnormallyClosed`。 -/
def reportProtocolHandle (session : Option SessionId) (protoId : ProtocolId) :
    SendResult → List Effect
  | .pending => [.error (.protocolHandleError protoId (.block session))]
  | .ok => []
  | .disconnect => [.error (.protocolHandleError protoId (.abnormallyClosed session))]

/-- `distribute_to_user_level` の loop。各 handler の buffer を `try_send` し、結果を報告する。 -/
def sendToUserLevel (o : SendOracle) : Op := fun s =>
  ({ s with
      serviceProtoHandles := s.serviceProtoHandles.mapVal fun p b => (b.trySend (o.serviceProto p)).1
      sessionProtoHandles := s.sessionProtoHandles.mapVal fun k b => (b.trySend (o.sessionProto k)).1 },
   s.serviceProtoHandles.entries.flatMap (fun e =>
      reportProtocolHandle none e.1 (e.2.trySend (o.serviceProto e.1)).2.1) ++
    s.sessionProtoHandles.entries.flatMap (fun e =>
      reportProtocolHandle (some e.1.1) e.1.2 (e.2.trySend (o.sessionProto e.1)).2.1))

/-- loop の中で `Disconnect` に出会うか（Rust の `error` flag）。 -/
def userLevelDisconnected (o : SendOracle) (s : Service) : Bool :=
  s.serviceProtoHandles.entries.any
      (fun e => (e.2.trySend (o.serviceProto e.1)).2.1 = .disconnect) ||
    s.sessionProtoHandles.entries.any
      (fun e => (e.2.trySend (o.sessionProto e.1)).2.1 = .disconnect)

/-- `distribute_to_user_level`。handler の buffer を `try_send` し、`Pending` と `Disconnect` を
報告する。一つでも `Disconnect` なら、その後で `Shutdown(false)` を処理する。共有の shutdown flag が
立っていれば何もしない。 -/
def distributeToUserLevel (o : SendOracle) : Op := fun s =>
  if s.shutdown then (s, [])
  else if userLevelDisconnected o s then Op.seq (sendToUserLevel o) (handleShutdown o false) s
  else sendToUserLevel o s

end Tentacle
