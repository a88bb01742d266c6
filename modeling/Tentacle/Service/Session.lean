import Tentacle.Service.Basic

/-!
# session を開く側の操作

`session_open` は二段に分けて書く。

* `sessionOpenCheck` — 重複した公開鍵と peer id の検査。断るときは出す error を、
  通すときは記録する address を返す。
* `sessionOpenInsert` — 空いた id を取り、session を `sessions` に入れ、handler の buffer を
  作って `Session` を spawn し、`SessionOpen` を出す。

`generate_next_session` の loop は、`2^32` 回進めると元の値に戻る。そこまでに空いた id が
無ければ Rust の loop は止まらないので、そのときは `none`（次の状態が無い）とする。
-/

namespace Tentacle

/-! ## id と上限 -/

/-- `generate_next_session` の loop。`fuel` 回まで一つずつ進め、`sessions` に無い最初の id を返す。 -/
def nextFreeSession (sessions : HashMap SessionId SessionController) :
    Nat → SessionId → Option SessionId
  | 0, _ => none
  | fuel + 1, id => if id + 1 ∈ sessions then nextFreeSession sessions fuel (id + 1) else some (id + 1)

/-- `generate_next_session`。 -/
def generateNextSession (s : Service) : Option Service :=
  (nextFreeSession s.sessions (2 ^ 32) s.nextSession).map fun id => { s with nextSession := id }

/-- 64 bit の `usize::checked_add`。 -/
def checkedAdd (a b : Nat) : Option Nat := if a + b < 2 ^ 64 then some (a + b) else none

/-- `reached_max_connection_limit`。今の session の数に pending の数を足し、上限を超えているか。
足し算が溢れたら「超えていない」とする。 -/
def reachedMaxConnectionLimit (cfg : Config) (s : Service) : Bool :=
  match checkedAdd s.sessions.len (s.state.intoInner.getD 0) with
  | some count => decide (cfg.maxConnectionNumber < count)
  | none => false

/-! ## peer id -/

/-- Modelled from the spec: `utils::extract_peer_id`。§4.7.5 の「address が持つ peer id の
component」。先頭から見て、peer id として読める最初の `p2p` component の値。 -/
def extractPeerId (cfg : Config) : Multiaddr → Option PeerId
  | [] => none
  | .p2p bytes :: rest =>
    match cfg.peerIdFromBytes bytes with
    | some pid => some pid
    | none => extractPeerId cfg rest
  | _ :: rest => extractPeerId cfg rest

/-! ## session_open -/

/-- `session_handles_open` が buffer を作る protocol。session の handler が `Callback` か
`Both` のもの。 -/
def sessionHandleProtocols (cfg : Config) : List ProtocolId :=
  (cfg.protocolConfigs.entries.filter fun e => e.2.sessionHandle.isCallback).map (·.1)

/-- `session_handles_open`。`id` の session があれば、handler を持つ protocol ごとに
`(id, proto_id)` の buffer を作る。 -/
def sessionHandlesOpen (cfg : Config) (id : SessionId) (s : Service) : Service :=
  if id ∈ s.sessions then
    let handles := (sessionHandleProtocols cfg).foldl (fun m p => m.insert (id, p) Buffer.new)
      s.sessionProtoHandles
    { s with sessionProtoHandles := handles }
  else s

/-- outbound の session で最初に開く protocol の名前（`open_proto_stream` に渡すもの）。 -/
def openedProtocols (cfg : Config) : TargetProtocol → List String
  | .all => cfg.protocolConfigs.values.map (·.name)
  | .single id => ((cfg.protocolConfigs.lookup id).map (·.name)).toList
  | .multi ids => ids.filterMap fun id => (cfg.protocolConfigs.lookup id).map (·.name)

/-- `session_open` の検査の段。公開鍵が既に開いている session のものなら、接続を
`poll_shutdown` して向きに応じた `RepeatedConnection` を出す（inbound で listen address が
無ければ `expect` が panic する）。peer id が合わなければ `PeerIdNotMatch`。
通すときは、peer id の component が無ければ足した address を返す。 -/
def sessionOpenCheck (cfg : Config) (s : Service) (handle : Handle)
    (remotePubkey : Option PublicKey) (address : Multiaddr) (ty : SessionType)
    (listenAddr : Option Multiaddr) : Option (Except (List Effect) Multiaddr) :=
  match remotePubkey with
  | none => some (.ok address)
  | some key =>
    match s.sessions.values.find? (fun c => c.inner.remotePubkey == some key) with
    | some c =>
      if ty.isOutbound then
        some (.error [.shutdownHandle handle,
          .error (.dialerError address (.repeatedConnection c.inner.id))])
      else
        listenAddr.map fun l =>
          .error [.shutdownHandle handle, .error (.listenError l (.repeatedConnection c.inner.id))]
    | none =>
      match extractPeerId cfg address with
      | some peerId =>
        if cfg.peerIdOf key != peerId then
          some (.error [.error (.dialerError address .peerIdNotMatch)])
        else some (.ok address)
      | none => some (.ok (address ++ [.p2p (cfg.peerIdOf key).bytes]))

/-- `session_open` の挿入の段。空いた id を取って session を入れ、handler の buffer を作る。
新しい `Session` には、その id の handler の sender と、outbound なら最初に開く protocol を渡す。 -/
def sessionOpenInsert (cfg : Config) (handle : Handle) (remotePubkey : Option PublicKey)
    (address : Multiaddr) (ty : SessionType) (target : TargetProtocol) (s : Service) :
    Option (Service × List Effect) :=
  (generateNextSession s).map fun s =>
    let ctx : SessionContext := ⟨s.nextSession, address, ty, remotePubkey⟩
    let s := sessionHandlesOpen cfg ctx.id
      { s with sessions := s.sessions.insert ctx.id ⟨ctx, Buffer.new⟩ }
    let senders := (s.sessionProtoHandles.entries.filter fun e => e.1.1 == ctx.id).map
      fun e => (e.1.2, e.2.items)
    let opened := if ty.isOutbound then openedProtocols cfg target else []
    (s, [.spawn (.session ctx.id handle senders opened), .event (.sessionOpen ctx)])

/-- `session_open`。先に `dial_protocols` から dial の記録を取り出す。 -/
def sessionOpen (cfg : Config) (handle : Handle) (remotePubkey : Option PublicKey)
    (address : Multiaddr) (ty : SessionType) (listenAddr : Option Multiaddr) (s : Service) :
    Option (Service × List Effect) :=
  let target := (s.dialProtocols.lookup address).getD .all
  let s := { s with dialProtocols := s.dialProtocols.erase address }
  (sessionOpenCheck cfg s handle remotePubkey address ty listenAddr).bind fun
    | .error out => some (s, out)
    | .ok address => sessionOpenInsert cfg handle remotePubkey address ty target s

/-! ## protocol と message -/

/-- `protocol_open`。外からの要求は session に `ProtocolOpen` を積む。内からの通知は
`event` に入っている protocol なら `handle_proto` に `Connected` を渡す。 -/
def protocolOpen (cfg : Config) (o : SendOracle) (id : SessionId) (protoId : ProtocolId)
    (version : String) : Source → Op
  | .external => pushToSession o id (.protocolOpen id protoId version)
  | .internal => fun s =>
    (s, match s.sessions.lookup id with
      | some c => if protoId ∈ cfg.event then [.proto (.connected c.inner protoId version)] else []
      | none => [])

/-- `protocol_message`。 -/
def protocolMessage (cfg : Config) (id : SessionId) (protoId : ProtocolId) (data : Bytes) :
    Op := fun s =>
  (s, match s.sessions.lookup id with
    | some c => if protoId ∈ cfg.event then [.proto (.received c.inner protoId data)] else []
    | none => [])

/-- `protocol_close`。外からの要求は session に `ProtocolClose` を積む。内からの通知は
`handle_proto` に `Disconnected` を渡し、`(id, proto_id)` の handler の buffer を捨てる。 -/
def protocolClose (cfg : Config) (o : SendOracle) (id : SessionId) (protoId : ProtocolId) :
    Source → Op
  | .external => pushToSession o id (.protocolClose id protoId)
  | .internal => fun s =>
    let out : List Effect := match s.sessions.lookup id with
      | some c => if protoId ∈ cfg.event then [.proto (.disconnected protoId c.inner)] else []
      | none => []
    ({ s with sessionProtoHandles := s.sessionProtoHandles.erase (id, protoId) }, out)

/-- `handle_message` の宛先への振り分け。宛先の session ごとに積む。`Multi` は id の列を
順に見て、生きている session に積む（同じ id が二度あれば二度積む）。 -/
def routeMessage (target : TargetSession) (protoId : ProtocolId) (priority : Priority)
    (data : Bytes) (sessions : HashMap SessionId SessionController) :
    HashMap SessionId SessionController :=
  let push (c : SessionController) := c.pushMessage protoId priority data
  match target with
  | .single id => sessions.modifyVal id push
  | .multi ids => ids.foldl (fun m id => m.modifyVal id push) sessions
  | .all => sessions.mapVal fun _ => push

/-- `before_sends` にあれば、その変換をかける。 -/
def applyBeforeSend (beforeSends : HashMap ProtocolId (Bytes → Bytes)) (protoId : ProtocolId)
    (data : Bytes) : Bytes :=
  match beforeSends.lookup protoId with
  | some f => f data
  | none => data

/-- `handle_message`。`before_send` があれば一度だけかけ、宛先に積んでから
`distribute_to_session`。 -/
def handleMessage (o : SendOracle) (target : TargetSession) (protoId : ProtocolId)
    (priority : Priority) (data : Bytes) : Op := fun s =>
  let data := applyBeforeSend s.beforeSends protoId data
  distributeToSession o { s with sessions := routeMessage target protoId priority data s.sessions }

end Tentacle
