import Mathlib

/-!
# 基本の型

`service.rs` の `Service` が持つ map と、やりとりする event を写す。

Rust の `HashMap` と `HashSet` は Mathlib の `AList` で表す。key の重複が無いことは
`AList` が field として持つので、`sessions` に同じ id が二つ入った状態は作れない。
iteration の順は Rust では決まっていない。ここでは entries の並びをその一つとして使う。

socket・incoming stream・handler object のように service が中を見ない値は、
識別のための番号か、何もしない引数として落とす（`MODEL_MAP.json`）。
-/

/-! ## map と set

`AList` に、`service.rs` が使う `HashMap` の操作のうち Mathlib に無いものを足す。
-/

namespace AList

section

variable {α : Type} {β : α → Type}

/-- `HashMap::len`。 -/
def len (m : AList β) : Nat := m.entries.length

/-- `values_mut` の loop。key は変えずに値だけを書き換える。 -/
def mapVal (f : (a : α) → β a → β a) (m : AList β) : AList β :=
  ⟨m.entries.map (fun e => ⟨e.1, f e.1 e.2⟩), by
    simpa [List.NodupKeys, List.keys, Function.comp_def] using m.nodupKeys⟩

/-- `HashMap::retain`。`p` を満たす key だけを残す。 -/
def retain (p : α → Bool) (m : AList β) : AList β :=
  ⟨m.entries.filter (fun e => p e.1), m.nodupKeys.sublist (List.filter_sublist _)⟩

/-- `HashMap::values`。 -/
def values {V : Type} (m : AList (fun _ : α => V)) : List V := m.entries.map (·.2)

@[simp]
theorem len_empty : (∅ : AList β).len = 0 := rfl

theorem len_eq_length_keys (m : AList β) : m.len = m.keys.length := by
  simp [len, AList.keys, List.keys]

@[simp]
theorem keys_mapVal (f : (a : α) → β a → β a) (m : AList β) : (m.mapVal f).keys = m.keys := by
  simp [mapVal, AList.keys, List.keys, Function.comp_def]

@[simp]
theorem len_mapVal (f : (a : α) → β a → β a) (m : AList β) : (m.mapVal f).len = m.len := by
  simp [mapVal, len]

@[simp]
theorem mem_mapVal {f : (a : α) → β a → β a} {m : AList β} {k : α} : k ∈ m.mapVal f ↔ k ∈ m := by
  simp [AList.mem_keys]

end

variable {α : Type} [DecidableEq α] {β : α → Type}

theorem dlookup_filter (p : α → Bool) (k : α) :
    ∀ l : List (Sigma β),
      (l.filter (fun e => p e.1)).dlookup k = if p k then l.dlookup k else none
  | [] => by simp
  | ⟨a, b⟩ :: l => by
    by_cases hk : k = a
    · subst hk
      cases hp : p k <;> simp [List.filter_cons, hp, dlookup_filter p k l]
    · by_cases hpa : p a <;>
        simp [List.filter_cons, hpa, List.dlookup_cons_ne l ⟨a, b⟩ hk, hk,
          dlookup_filter p k l]

@[simp]
theorem lookup_retain (p : α → Bool) (m : AList β) (k : α) :
    (m.retain p).lookup k = if p k then m.lookup k else none :=
  dlookup_filter p k m.entries

@[simp]
theorem mem_retain {p : α → Bool} {m : AList β} {k : α} : k ∈ m.retain p ↔ p k ∧ k ∈ m := by
  rw [← AList.lookup_isSome, ← AList.lookup_isSome, lookup_retain]
  cases p k <;> simp

theorem dlookup_map (f : (a : α) → β a → β a) (k : α) :
    ∀ l : List (Sigma β),
      (l.map (fun e => (⟨e.1, f e.1 e.2⟩ : Sigma β))).dlookup k = (l.dlookup k).map (f k)
  | [] => rfl
  | ⟨a, b⟩ :: l => by
    by_cases hk : k = a
    · subst hk; simp
    · simp [List.dlookup_cons_ne l ⟨a, b⟩ hk, hk, dlookup_map f k l]

@[simp]
theorem lookup_mapVal (f : (a : α) → β a → β a) (m : AList β) (k : α) :
    (m.mapVal f).lookup k = (m.lookup k).map (f k) :=
  dlookup_map f k m.entries

/-- `get_mut(&k)` で値を書き換える。key が無ければ何もしない。 -/
def modifyVal {V : Type} (k : α) (f : V → V) (m : AList (fun _ : α => V)) :
    AList (fun _ : α => V) :=
  m.mapVal (fun a v => if a = k then f v else v)

@[simp]
theorem lookup_modifyVal {V : Type} (k : α) (f : V → V) (m : AList (fun _ : α => V)) (a : α) :
    (m.modifyVal k f).lookup a = if a = k then (m.lookup k).map f else m.lookup a := by
  by_cases h : a = k
  · subst h; simp [modifyVal]
  · simp [modifyVal, h]

@[simp]
theorem mem_modifyVal {V : Type} {k : α} {f : V → V} {m : AList (fun _ : α => V)} {a : α} :
    a ∈ m.modifyVal k f ↔ a ∈ m :=
  mem_mapVal

theorem len_insert_of_not_mem {m : AList β} {k : α} {v : β k} (h : k ∉ m) :
    (m.insert k v).len = m.len + 1 := by
  simp only [len, AList.insert_entries_of_neg h, List.length_cons]

theorem eq_empty_of_lookup {m : AList β} (h : ∀ k, m.lookup k = none) : m = ∅ := by
  apply AList.ext
  cases he : m.entries with
  | nil => rfl
  | cons e es =>
    obtain ⟨k, v⟩ := e
    have := h k
    simp [AList.lookup, he] at this

end AList

namespace Tentacle

/-- Rust の `HashMap<K, V>`。 -/
abbrev HashMap (K V : Type) := AList (fun _ : K => V)

/-- Rust の `HashSet<K>`。 -/
abbrev HashSet (K : Type) := HashMap K Unit

/-! ## id と address -/

/-- Modelled from the spec: `SessionId` の宣言はソースに無い。§3 の「32 bit で、
空いている値を wrap-around しながら探して割り当てる」id とする。 -/
abbrev SessionId := BitVec 32

/-- `ProtocolId`。embedder が選ぶ整数。 -/
abbrev ProtocolId := Nat

/-- byte 列（`bytes::Bytes`）。 -/
abbrev Bytes := List UInt8

/-- Modelled from the spec: multiaddr の component。`/ip4/1.2.3.4/tcp/443/ws` のような
path の一段である。service が中を見るのは peer id を運ぶ `p2p` だけ。 -/
inductive Protocol where
  | ip4 (addr : Nat)
  | tcp (port : Nat)
  | dns4 (host : String)
  | ws
  | p2p (bytes : Bytes)
  deriving DecidableEq, Repr

/-- multiaddr は component の列。 -/
abbrev Multiaddr := List Protocol

/-- Modelled from the spec: secio の公開鍵。service は比較と peer id の導出にしか使わない。 -/
structure PublicKey where
  bytes : Bytes
  deriving DecidableEq, Repr

/-- Modelled from the spec: 公開鍵から導く peer id。 -/
structure PeerId where
  bytes : Bytes
  deriving DecidableEq, Repr

/-- 接続の byte stream。service は識別にしか使わないので番号で表す。 -/
abbrev Handle := Nat

/-! ## session -/

/-- `SessionType`。接続の向き。 -/
inductive SessionType where
  | outbound
  | inbound
  deriving DecidableEq, Repr

/-- `SessionType::is_outbound`。 -/
def SessionType.isOutbound : SessionType → Bool
  | .outbound => true
  | .inbound => false

/-- 優先度つき channel の優先度。 -/
inductive Priority where
  | high
  | normal
  deriving DecidableEq, Repr

/-- `TargetProtocol`。outbound の session で開く protocol。 -/
inductive TargetProtocol where
  | all
  | single (id : ProtocolId)
  | multi (ids : List ProtocolId)
  deriving DecidableEq, Repr

/-- `TargetSession`。message を送る先の session。 -/
inductive TargetSession where
  | all
  | single (id : SessionId)
  | multi (ids : List SessionId)
  deriving DecidableEq, Repr

/-- `Source`。close や open の要求がどこから来たか。 -/
inductive Source where
  | internal
  | external
  deriving DecidableEq, Repr

/-- `SessionContext`。作った後は変わらない session の記述。
共有の closed flag と pending data size は service が読まないので持たない。 -/
structure SessionContext where
  id : SessionId
  address : Multiaddr
  ty : SessionType
  remotePubkey : Option PublicKey
  deriving DecidableEq, Repr

/-! ## event -/

/-- `ProtocolHandleErrorKind`。 -/
inductive ProtocolHandleErrorKind where
  | block (session : Option SessionId)
  | abnormallyClosed (session : Option SessionId)
  deriving DecidableEq, Repr

/-- `SessionEvent`。session・handshake・listener・dial から service に届く event。
service が match で拾わない variant は `other` にまとめる。 -/
inductive SessionEvent where
  | sessionClose (id : SessionId)
  | handshakeSuccess (handle : Handle) (publicKey : Option PublicKey) (address : Multiaddr)
      (ty : SessionType) (listenAddress : Option Multiaddr)
  | handshakeError (ty : SessionType) (error : String) (address : Multiaddr)
  | protocolMessage (id : SessionId) (protoId : ProtocolId) (data : Bytes)
  | protocolOpen (id : SessionId) (protoId : ProtocolId) (version : String)
  | protocolClose (id : SessionId) (protoId : ProtocolId)
  | protocolSelectError (id : SessionId) (protoName : String)
  | protocolError (id : SessionId) (protoId : ProtocolId) (error : String)
  | dialError (address : Multiaddr) (error : String)
  | listenError (address : Multiaddr) (error : String)
  | sessionTimeout (id : SessionId)
  | muxerError (id : SessionId) (error : String)
  | listenStart (listenAddress : Multiaddr)
  | protocolHandleError (error : ProtocolHandleErrorKind) (protoId : ProtocolId)
  | other
  deriving DecidableEq, Repr

/-- `ServiceTask`。control から service に届く task。`interval` は ms、`task` は
`FutureTask` で渡される future の番号。 -/
inductive ServiceTask where
  | protocolMessage (target : TargetSession) (protoId : ProtocolId) (data : Bytes)
  | dial (address : Multiaddr) (target : TargetProtocol)
  | listen (address : Multiaddr)
  | disconnect (sessionId : SessionId)
  | futureTask (task : Nat)
  | setProtocolNotify (protoId : ProtocolId) (interval token : Nat)
  | removeProtocolNotify (protoId : ProtocolId) (token : Nat)
  | setProtocolSessionNotify (sessionId : SessionId) (protoId : ProtocolId) (interval token : Nat)
  | removeProtocolSessionNotify (sessionId : SessionId) (protoId : ProtocolId) (token : Nat)
  | protocolOpen (sessionId : SessionId) (target : TargetProtocol)
  | protocolClose (sessionId : SessionId) (protoId : ProtocolId)
  | shutdown (quick : Bool)
  deriving DecidableEq, Repr

/-- `ServiceEvent`。`ServiceHandle::handle_event` に渡る event。 -/
inductive ServiceEvent where
  | sessionOpen (sessionContext : SessionContext)
  | sessionClose (sessionContext : SessionContext)
  | listenStarted (address : Multiaddr)
  | listenClose (address : Multiaddr)
  deriving DecidableEq, Repr

/-- `DialerErrorKind`。 -/
inductive DialerErrorKind where
  | repeatedConnection (id : SessionId)
  | peerIdNotMatch
  | handshakeError (error : String)
  | transportError (error : String)
  deriving DecidableEq, Repr

/-- `ListenErrorKind`。 -/
inductive ListenErrorKind where
  | repeatedConnection (id : SessionId)
  | transportError (error : String)
  deriving DecidableEq, Repr

/-- `ServiceError`。`ServiceHandle::handle_error` に渡る error。 -/
inductive ServiceError where
  | dialerError (address : Multiaddr) (error : DialerErrorKind)
  | listenError (address : Multiaddr) (error : ListenErrorKind)
  | protocolSelectError (protoName : String) (sessionContext : SessionContext)
  | protocolError (id : SessionId) (protoId : ProtocolId) (error : String)
  | sessionTimeout (sessionContext : SessionContext)
  | muxerError (sessionContext : SessionContext) (error : String)
  | sessionBlocked (sessionContext : SessionContext)
  | protocolHandleError (protoId : ProtocolId) (error : ProtocolHandleErrorKind)
  deriving DecidableEq, Repr

/-- `ProtocolEvent`。`ServiceHandle::handle_proto` に渡る event。 -/
inductive ProtocolEvent where
  | connected (sessionContext : SessionContext) (protoId : ProtocolId) (version : String)
  | received (sessionContext : SessionContext) (protoId : ProtocolId) (data : Bytes)
  | disconnected (protoId : ProtocolId) (sessionContext : SessionContext)
  deriving DecidableEq, Repr

/-- `ServiceProtocolEvent` のうち service が handler の buffer に積むもの。 -/
inductive ServiceProtocolEvent where
  | update (listenAddrs : List Multiaddr)
  | setNotify (interval token : Nat)
  | removeNotify (token : Nat)
  deriving DecidableEq, Repr

/-- `SessionProtocolEvent` のうち service が handler の buffer に積むもの。 -/
inductive SessionProtocolEvent where
  | update (listenAddrs : List Multiaddr)
  | setNotify (interval token : Nat)
  | removeNotify (token : Nat)
  deriving DecidableEq, Repr

/-! ## service の外で走る future と、service が外に起こすこと -/

/--
service が runtime に渡す future。何をする future かだけを持つ。

`dial` と `listen` は `dial_inner` と `listen_inner` が `future_task_sender` に積むもの、
`handshake` と `listener` は `handshake` と `spawn_listener` が送るもの、
`session` は `session_open` が spawn する `Session` で、開いた handle の sender と
最初に開く protocol の名前を持つ。`user` は `ServiceTask::FutureTask` の future。
-/
inductive FutureTask where
  | dial (address : Multiaddr)
  | listen (address : Multiaddr)
  | handshake (handle : Handle) (ty : SessionType) (remoteAddress : Multiaddr)
      (listenAddress : Option Multiaddr)
  | listener (listenAddress : Multiaddr)
  | session (id : SessionId) (handle : Handle)
      (senders : List (ProtocolId × List SessionProtocolEvent)) (opened : List String)
  | user (task : Nat)
  deriving DecidableEq, Repr

/-- service の一回の操作が外に起こすこと。`ServiceHandle` の三つの callback、
runtime への spawn、重複した接続の `poll_shutdown`。 -/
inductive Effect where
  | event (e : ServiceEvent)
  | error (e : ServiceError)
  | proto (e : ProtocolEvent)
  | spawn (t : FutureTask)
  | shutdownHandle (h : Handle)
  deriving DecidableEq, Repr

end Tentacle
