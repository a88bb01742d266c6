import Tentacle.Basic

/-!
# 状態・buffer・設定

`service/config.rs`（`State`、`ProtocolMeta`、`ServiceConfig`）と `buffer.rs` はソースに無い。
`service.rs` が呼ぶ操作だけを、spec の §3 と §4.1 に従って書く。

`multi_transport` の同期の失敗と、公開鍵から peer id を導く関数は、service の外の crate が
決めるので `Config` の field として受け取る。
-/

namespace Tentacle

/-! ## State -/

/--
Modelled from the spec: `State`。§3 は `{ forever, pending, shutdown }` とし、`pending` は
飛んでいる dial と listen の試みを数える。`pending = 0` で session も listen も future task も
無ければ、`forever` でない service は shutdown する。`Shutdown` task は `pre_shutdown` で
`shutdown` を立てる。
-/
structure State where
  forever : Bool
  pending : Nat
  shutdown : Bool
  deriving DecidableEq, Repr

namespace State

/-- `State::new`。 -/
def new (forever : Bool) : State := ⟨forever, 0, false⟩

/-- `State::increase`。試みを一つ数える。 -/
def increase (s : State) : State := { s with pending := s.pending + 1 }

/-- `State::decrease`。試みの完了を一つ数える。 -/
def decrease (s : State) : State := { s with pending := s.pending - 1 }

/-- `State::pre_shutdown`。 -/
def preShutdown (s : State) : State := { s with shutdown := true }

/-- `State::is_shutdown`。終了の判定に使う。 -/
def isShutdown (s : State) : Bool := s.shutdown || (!s.forever && s.pending == 0)

/-- `State::into_inner`。接続数の上限の判定に足す pending の数。`forever` の service と
`pre_shutdown` の後は数えない。 -/
def intoInner (s : State) : Option Nat := if s.forever || s.shutdown then none else some s.pending

@[simp] theorem increase_pending (s : State) : s.increase.pending = s.pending + 1 := rfl
@[simp] theorem decrease_pending (s : State) : s.decrease.pending = s.pending - 1 := rfl
@[simp] theorem increase_shutdown (s : State) : s.increase.shutdown = s.shutdown := rfl
@[simp] theorem decrease_shutdown (s : State) : s.decrease.shutdown = s.shutdown := rfl
@[simp] theorem preShutdown_shutdown (s : State) : s.preShutdown.shutdown = true := rfl

@[simp]
theorem isShutdown_preShutdown (s : State) : s.preShutdown.isShutdown = true := by
  simp [isShutdown, preShutdown]

/-- 上限の判定に足す数は、pending の数を超えない。 -/
theorem intoInner_getD_le (s : State) : s.intoInner.getD 0 ≤ s.pending := by
  unfold intoInner; split <;> simp

end State

/-! ## Buffer -/

/-- `SendResult`。`Buffer::try_send` の結果。 -/
inductive SendResult where
  | ok
  | pending
  | disconnect
  deriving DecidableEq, Repr

/-- Modelled from the spec: 一回の `try_send` で channel がどうだったか。§4.1 の
「全部送れた」「channel が一杯（先頭 `sent` 個だけ送れた）」「受け手がいない」。 -/
inductive SendOutcome where
  | ok
  | pending (sent : Nat)
  | disconnect
  deriving DecidableEq, Repr

/-- Modelled from the spec: `Buffer`。§4.1 の、channel に送られるのを待つ item の列。
`push` は末尾に足し、決して失敗しない。 -/
structure Buffer (α : Type) where
  items : List α
  deriving DecidableEq, Repr

namespace Buffer

variable {α : Type}

/-- `Buffer::new`。 -/
def new : Buffer α := ⟨[]⟩

/-- `Buffer::push`。 -/
def push (b : Buffer α) (x : α) : Buffer α := ⟨b.items ++ [x]⟩

/-- `Buffer::len`。 -/
def len (b : Buffer α) : Nat := b.items.length

/-- `Buffer::is_empty`。 -/
def isEmpty (b : Buffer α) : Bool := b.items.isEmpty

/-- Modelled from the spec: `Buffer::try_send`。残る buffer と、結果と、channel に送った item を
返す。空の buffer は何も送らずに `Ok`。channel が一杯なら先頭の `sent` 個を送って抜き `Pending`、
受け手がいなければ何も送らず何も抜かずに `Disconnect`。 -/
def trySend (b : Buffer α) : SendOutcome → Buffer α × SendResult × List α
  | .ok => (new, .ok, b.items)
  | .pending sent =>
    if sent < b.len then (⟨b.items.drop sent⟩, .pending, b.items.take sent) else (new, .ok, b.items)
  | .disconnect => if b.items.isEmpty then (b, .ok, []) else (b, .disconnect, [])

@[simp] theorem new_items : (new : Buffer α).items = [] := rfl
@[simp] theorem len_new : (new : Buffer α).len = 0 := rfl

/-- 空の buffer は `try_send` で空のまま。 -/
theorem trySend_new (o : SendOutcome) : ((new : Buffer α).trySend o).1 = new := by
  cases o <;> simp [trySend, len]

end Buffer

/-- 一回の操作のあいだに各 buffer の `try_send` が出会う channel の様子。
外の task がどこまで読んだかで決まるので、run ごとに任意に与える。 -/
structure SendOracle where
  session : SessionId → SendOutcome
  serviceProto : ProtocolId → SendOutcome
  sessionProto : SessionId × ProtocolId → SendOutcome
  futureTask : SendOutcome

/-! ## 設定 -/

/-- Modelled from the spec: `ProtocolHandle`。§4.2 の通り、handler を作るのは
`Callback` か `Both` のときだけ。 -/
inductive ProtocolHandle where
  | empty
  | event
  | callback
  | both
  deriving DecidableEq, Repr

/-- `Callback(handle) | Both(handle)` の pattern に当たるか。 -/
def ProtocolHandle.isCallback : ProtocolHandle → Bool
  | .callback | .both => true
  | .empty | .event => false

/-- Modelled from the spec: `ProtocolMeta` のうち service が読むもの。§3 の名前、
service と session の handler、送る前の変換。 -/
structure ProtocolMeta where
  name : String
  serviceHandle : ProtocolHandle
  sessionHandle : ProtocolHandle
  beforeSend : Option (Bytes → Bytes)

/--
service の設定。`protocol_configs` は作った後に key が変わらないのでここに置く。

`ServiceConfig` からは `max_connection_number`、`event`（`handle_proto` に流す protocol）、
`send_event_size` と `recv_event_size` を読む。`peerIdOf` は `PublicKey::peer_id`、
`peerIdFromBytes` は `PeerId::from_bytes`、`transportListen` と `transportDial` は
`multi_transport` の `listen` と `dial` が同期に返す error（無ければ `none`）。
-/
structure Config where
  protocolConfigs : HashMap ProtocolId ProtocolMeta
  maxConnectionNumber : Nat
  event : List ProtocolId
  sendEventSize : Nat
  recvEventSize : Nat
  peerIdOf : PublicKey → PeerId
  peerIdFromBytes : Bytes → Option PeerId
  transportListen : Multiaddr → Option String
  transportDial : Multiaddr → Option String

end Tentacle
