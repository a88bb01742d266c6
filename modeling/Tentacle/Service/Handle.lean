import Tentacle.Service.Session

/-!
# event と task の処理

`handle_session_event` と `handle_service_task`、それに両者が呼ぶ listen と dial の操作。

`HandshakeSuccess` だけが `session_open` を通るので、`handleSessionEvent` は
`Option` を返す（`none` は Rust で loop が止まらないか panic するとき）。
-/

namespace Tentacle

/-! ## future task -/

/-- `send_pending_task`。`future_task_sender` の buffer を `try_send` し、送れた future を
runtime に渡す。 -/
def sendPendingTask (o : SendOracle) : Op := fun s =>
  let r := s.futureTaskSender.trySend o.futureTask
  ({ s with futureTaskSender := r.1 }, r.2.2.map .spawn)

/-- `send_future_task`。 -/
def sendFutureTask (o : SendOracle) (task : FutureTask) : Op := fun s =>
  sendPendingTask o { s with futureTaskSender := s.futureTaskSender.push task }

/-! ## listen と dial -/

/-- `try_update_listens`。`listens` と公開済みの list の長さが違うときだけ、新しい list を
公開し、全部の handler の buffer に `Update` を積んで `distribute_to_user_level`。 -/
def tryUpdateListens (o : SendOracle) : Op := fun s =>
  if s.listens.len = s.serviceContextListens.length then (s, []) else
    let newListens := s.listens.keys
    distributeToUserLevel o { s with
      serviceContextListens := newListens
      serviceProtoHandles := s.serviceProtoHandles.mapVal fun _ b => b.push (.update newListens)
      sessionProtoHandles := s.sessionProtoHandles.mapVal fun _ b => b.push (.update newListens) }

/-- `listen_inner`。transport が同期に断れば `Err`。そうでなければ listen の future を積み、
試みを一つ数える。 -/
def listenInner (cfg : Config) (address : Multiaddr) (s : Service) :
    Service × Except String Unit :=
  match cfg.transportListen address with
  | some e => (s, .error e)
  | none =>
    ({ s with futureTaskSender := s.futureTaskSender.push (.listen address),
              state := s.state.increase }, .ok ())

/-- `dial_inner`。先に `dial_protocols` に記録してから transport に dial させる。
transport が同期に断ると、記録を残したまま `Err` を返す。 -/
def dialInner (cfg : Config) (address : Multiaddr) (target : TargetProtocol) (s : Service) :
    Service × Except String Unit :=
  let s := { s with dialProtocols := s.dialProtocols.insert address target }
  match cfg.transportDial address with
  | some e => (s, .error e)
  | none =>
    ({ s with futureTaskSender := s.futureTaskSender.push (.dial address),
              state := s.state.increase }, .ok ())

@[simp]
theorem listenInner_sessions (cfg : Config) (a : Multiaddr) (s : Service) :
    (listenInner cfg a s).1.sessions = s.sessions := by
  unfold listenInner; split <;> rfl

@[simp]
theorem listenInner_sessionProtoHandles (cfg : Config) (a : Multiaddr) (s : Service) :
    (listenInner cfg a s).1.sessionProtoHandles = s.sessionProtoHandles := by
  unfold listenInner; split <;> rfl

@[simp]
theorem dialInner_sessions (cfg : Config) (a : Multiaddr) (t : TargetProtocol) (s : Service) :
    (dialInner cfg a t s).1.sessions = s.sessions := by
  unfold dialInner; split <;> rfl

@[simp]
theorem dialInner_sessionProtoHandles (cfg : Config) (a : Multiaddr) (t : TargetProtocol)
    (s : Service) : (dialInner cfg a t s).1.sessionProtoHandles = s.sessionProtoHandles := by
  unfold dialInner; split <;> rfl

/-- 公開の `listen`。`result` は listen の future が返した実際の address か error。
成功すれば `ListenStarted` を出し、address を記録して listener を spawn する。 -/
def listen (cfg : Config) (address : Multiaddr) (result : Except String Multiaddr)
    (s : Service) : Service × List Effect × Except String Multiaddr :=
  match cfg.transportListen address, result with
  | some e, _ => (s, [], .error e)
  | none, .error e => (s, [], .error e)
  | none, .ok addr =>
    ({ s with listens := s.listens.insert addr () },
     [.event (.listenStarted addr), .spawn (.listener addr)], .ok addr)

/-- 公開の `dial`。`result` は dial の future が返した解決後の address と接続か error。
成功すれば handshake を spawn し、dial を記録して試みを一つ数える。 -/
def dial (cfg : Config) (address : Multiaddr) (target : TargetProtocol)
    (result : Except String (Multiaddr × Handle)) (s : Service) :
    Service × List Effect × Except String Unit :=
  match cfg.transportDial address, result with
  | some e, _ => (s, [], .error e)
  | none, .error e => (s, [], .error e)
  | none, .ok (addr, handle) =>
    ({ s with dialProtocols := s.dialProtocols.insert address target,
              state := s.state.increase },
     [.spawn (.handshake handle .outbound addr none)], .ok ())

/-! ## 初期化 -/

/-- `init_proto_handles`。service の handler を持つ protocol ごとに buffer を作り、
`before_send` を取り出して覚える。 -/
def initProtoHandles (cfg : Config) (s : Service) : Service :=
  let handles := (cfg.protocolConfigs.entries.filter fun e => e.2.serviceHandle.isCallback).foldl
    (fun m e => m.insert e.1 Buffer.new) s.serviceProtoHandles
  let sends := cfg.protocolConfigs.entries.foldl
    (fun m e => match e.2.beforeSend with
      | some f => m.insert e.1 f
      | none => m) s.beforeSends
  { s with serviceProtoHandles := handles, beforeSends := sends }

/-! ## handle_session_event -/

/-- `handle_session_event` の `ListenError` の分岐。address が `listens` にあれば動いていた
listener が止まったものとして外し、`ListenClose` を出す。無ければ listen の試みが
失敗したものとして pending を減らす。 -/
def handleListenError (address : Multiaddr) (error : String) (s : Service) :
    Service × List Effect :=
  let report := Effect.error (.listenError address (.transportError error))
  if address ∈ s.listens then
    ({ s with listens := s.listens.erase address }, [report, .event (.listenClose address)])
  else ({ s with state := s.state.decrease }, [report])

/-- `handle_session_event` の `ListenStart` の分岐。 -/
def handleListenStart (o : SendOracle) (listenAddress : Multiaddr) (s : Service) :
    Service × List Effect :=
  let r := tryUpdateListens o
    { s with listens := s.listens.insert listenAddress (), state := s.state.decrease }
  (r.1, [.event (.listenStarted listenAddress)] ++ r.2 ++ [.spawn (.listener listenAddress)])

/-- `handle_session_event` の `HandshakeSuccess` の分岐。outbound なら pending を減らし、
上限に達していなければ `session_open`。 -/
def handleHandshakeSuccess (cfg : Config) (handle : Handle) (publicKey : Option PublicKey)
    (address : Multiaddr) (ty : SessionType) (listenAddress : Option Multiaddr) (s : Service) :
    Option (Service × List Effect) :=
  let s := if ty.isOutbound then { s with state := s.state.decrease } else s
  if reachedMaxConnectionLimit cfg s then some (s, [])
  else sessionOpen cfg handle publicKey address ty listenAddress s

/-- `handle_session_event`。 -/
def handleSessionEvent (cfg : Config) (o : SendOracle) :
    SessionEvent → Service → Option (Service × List Effect)
  | .sessionClose id, s => some (sessionClose o id .internal s)
  | .handshakeSuccess handle publicKey address ty listenAddress, s =>
    handleHandshakeSuccess cfg handle publicKey address ty listenAddress s
  | .handshakeError ty error address, s =>
    if ty.isOutbound then
      some ({ s with state := s.state.decrease, dialProtocols := s.dialProtocols.erase address },
        [.error (.dialerError address (.handshakeError error))])
    else some (s, [])
  | .protocolMessage id protoId data, s => some (protocolMessage cfg id protoId data s)
  | .protocolOpen id protoId version, s => some (protocolOpen cfg o id protoId version .internal s)
  | .protocolClose id protoId, s => some (protocolClose cfg o id protoId .internal s)
  | .protocolSelectError id protoName, s =>
    some (s, ((s.sessions.lookup id).map fun c => Effect.error (.protocolSelectError protoName c.inner)).toList)
  | .protocolError id protoId error, s => some (s, [.error (.protocolError id protoId error)])
  | .dialError address error, s =>
    some ({ s with state := s.state.decrease, dialProtocols := s.dialProtocols.erase address },
      [.error (.dialerError address (.transportError error))])
  | .listenError address error, s => some (handleListenError address error s)
  | .sessionTimeout id, s =>
    some (s, ((s.sessions.lookup id).map fun c => Effect.error (.sessionTimeout c.inner)).toList)
  | .muxerError id error, s =>
    some (s, ((s.sessions.lookup id).map fun c => Effect.error (.muxerError c.inner error)).toList)
  | .listenStart listenAddress, s => some (handleListenStart o listenAddress s)
  | .protocolHandleError error protoId, s =>
    let r := handleShutdown o false s
    some (r.1, .error (.protocolHandleError protoId error) :: r.2)
  | .other, s => some (s, [])

/-! ## handle_service_task -/

/-- `dial_inner` が同期に失敗したときの報告。 -/
def dialFailure (address : Multiaddr) : Except String Unit → List Effect
  | .ok () => []
  | .error e => [.error (.dialerError address (.transportError e))]

/-- `listen_inner` が同期に失敗したときの報告。 -/
def listenFailure (address : Multiaddr) : Except String Unit → List Effect
  | .ok () => []
  | .error e => [.error (.listenError address (.transportError e))]

/-- `ServiceTask::Dial` の分岐。同じ address の dial が記録されていなければ `dial_inner`。 -/
def handleDial (cfg : Config) (address : Multiaddr) (target : TargetProtocol) : Op := fun s =>
  if address ∈ s.dialProtocols then (s, []) else
    let r := dialInner cfg address target s
    (r.1, dialFailure address r.2)

/-- `ServiceTask::Listen` の分岐。address が `listens` に無ければ `listen_inner`。 -/
def handleListen (cfg : Config) (address : Multiaddr) : Op := fun s =>
  if address ∈ s.listens then (s, []) else
    let r := listenInner cfg address s
    (r.1, listenFailure address r.2)

/-- service の handler の buffer に積んで `distribute_to_user_level`。buffer が無ければ何もしない。 -/
def pushServiceProto (o : SendOracle) (protoId : ProtocolId) (e : ServiceProtocolEvent) : Op :=
  fun s =>
  if protoId ∈ s.serviceProtoHandles then
    distributeToUserLevel o
      { s with serviceProtoHandles := s.serviceProtoHandles.modifyVal protoId (·.push e) }
  else (s, [])

/-- session の handler の buffer に積んで `distribute_to_user_level`。buffer が無ければ何もしない。 -/
def pushSessionProto (o : SendOracle) (key : SessionId × ProtocolId) (e : SessionProtocolEvent) :
    Op := fun s =>
  if key ∈ s.sessionProtoHandles then
    distributeToUserLevel o
      { s with sessionProtoHandles := s.sessionProtoHandles.modifyVal key (·.push e) }
  else (s, [])

/-- `handle_service_task`。 -/
def handleServiceTask (cfg : Config) (o : SendOracle) (priority : Priority) : ServiceTask → Op
  | .protocolMessage target protoId data => handleMessage o target protoId priority data
  | .dial address target => handleDial cfg address target
  | .listen address => handleListen cfg address
  | .disconnect sessionId => sessionClose o sessionId .external
  | .futureTask task => sendFutureTask o (.user task)
  | .setProtocolNotify protoId interval token => pushServiceProto o protoId (.setNotify interval token)
  | .removeProtocolNotify protoId token => pushServiceProto o protoId (.removeNotify token)
  | .setProtocolSessionNotify sessionId protoId interval token =>
    pushSessionProto o (sessionId, protoId) (.setNotify interval token)
  | .removeProtocolSessionNotify sessionId protoId token =>
    pushSessionProto o (sessionId, protoId) (.removeNotify token)
  | .protocolOpen sessionId .all =>
    Op.forEach cfg.protocolConfigs.keys fun id => protocolOpen cfg o sessionId id "" .external
  | .protocolOpen sessionId (.single id) => protocolOpen cfg o sessionId id "" .external
  | .protocolOpen sessionId (.multi ids) =>
    Op.forEach ids fun id => protocolOpen cfg o sessionId id "" .external
  | .protocolClose sessionId protoId => protocolClose cfg o sessionId protoId .external
  | .shutdown quick => handleShutdown o quick

end Tentacle
