import Tentacle.Properties.Step
import Tentacle.World

/-!
# 公開した listen address の list

`try_update_listens` は、`listens` と `ServiceContext` に公開した list の長さが違うときだけ、
`listens` を公開し直して、全部の handler の buffer に `Update` を積む。集合が変わっても
長さが同じなら何もしない。

* `Shrinks` — `try_update_listens` と `ListenStart` と公開の `listen` の他の操作は、公開した
  list を変えず、`listens` を増やさない（取り除くのは `ListenError` と shutdown だけ）
* `tryUpdateListens_published` — 前の公開の後に取り除かれただけなら、長さで見分けられるので、
  呼び出しの後には公開した list が `listens` と同じ集合になる
* `listensCovered_of_listenFirst` — 公開の `listen` を最初の巡より前にだけ呼び、handler の
  channel が切れない run では、どの巡の初めにもそうなっている
* `tryUpdateListens_pushes` — 公開し直す呼び出しは、全部の service と session の handler の
  buffer に新しい list の `Update` を積んでから `distribute_to_user_level` に渡す（`PushesUpdate`）
* `roundPublishes_of_listenFirst` — そういう run では、どの巡でも `try_update_listens` の
  二つの呼び出しの直後に、公開した list が `listens` と同じ集合になり、集合が変わっていた
  呼び出しは公開し直して `Update` を積む（`UpdatePublishes`）
* `tryUpdateListens_stale` — 巡の合間の公開の `listen` か、切れた handler の channel があると、
  そうならない
-/

namespace Tentacle

/-! ## listens を増やさない操作 -/

/-- `s'` は `s` から、公開した list と `future_task_manager` を変えず、`listens` を増やさずに
来た。 -/
def Shrunk (s' s : Service) : Prop :=
  s'.serviceContextListens = s.serviceContextListens ∧
    s'.futureTaskManager = s.futureTaskManager ∧ ∀ a ∈ s'.listens, a ∈ s.listens

theorem Shrunk.refl (s : Service) : Shrunk s s := ⟨rfl, rfl, fun _ h => h⟩

theorem Shrunk.setShutdown (s : Service) : Shrunk { s with shutdown := true } s := Shrunk.refl s

theorem Shrunk.trans {s₂ s₁ s₀ : Service} (h₂ : Shrunk s₂ s₁) (h₁ : Shrunk s₁ s₀) :
    Shrunk s₂ s₀ :=
  ⟨h₂.1.trans h₁.1, h₂.2.1.trans h₁.2.1, fun a h => h₁.2.2 a (h₂.2.2 a h)⟩

/-- `op` は公開した list と `future_task_manager` を変えず、`listens` を増やさない。 -/
def Shrinks (op : Op) : Prop := ∀ s, Shrunk (op s).1 s

namespace Shrinks

theorem seq {f g : Op} (hf : Shrinks f) (hg : Shrinks g) : Shrinks (Op.seq f g) :=
  fun s => (hg _).trans (hf s)

theorem forEach {α : Type} {f : α → Op} (hf : ∀ x, Shrinks (f x)) :
    ∀ xs, Shrinks (Op.forEach xs f)
  | [] => fun s => Shrunk.refl s
  | x :: xs => Op.forEach_cons x xs f ▸ seq (hf x) (forEach hf xs)

end Shrinks

section Frame

variable (o : SendOracle)

theorem shrinks_distributeToSession : Shrinks (distributeToSession o) := fun s => by
  unfold distributeToSession; split <;> exact Shrunk.refl _

theorem shrinks_pushToSession (id : SessionId) (e : SessionEvent) :
    Shrinks (pushToSession o id e) := fun s => by
  unfold pushToSession
  split
  · exact shrinks_distributeToSession o _
  · exact Shrunk.refl s

theorem shrinks_sessionClose (id : SessionId) : ∀ src, Shrinks (sessionClose o id src)
  | .external => shrinks_pushToSession o id _
  | .internal => fun s => by simp only [sessionClose]; split <;> exact Shrunk.refl _

theorem shrinks_shutdownDrain (quick : Bool) : Shrinks (shutdownDrain quick) := fun s => by
  cases quick <;> exact ⟨rfl, rfl, fun a h => by simp [shutdownDrain] at h⟩

theorem shrinks_handleShutdown (quick : Bool) : Shrinks (handleShutdown o quick) :=
  (shrinks_shutdownDrain quick).seq fun s =>
    Shrinks.forEach (fun i => shrinks_sessionClose o i _) _ s

theorem shrinks_sendToUserLevel : Shrinks (sendToUserLevel o) := fun s => Shrunk.refl s

theorem shrinks_distributeToUserLevel : Shrinks (distributeToUserLevel o) := fun s => by
  unfold distributeToUserLevel
  split
  · exact Shrunk.refl s
  split
  · exact (shrinks_sendToUserLevel o).seq (shrinks_handleShutdown o false) s
  · exact shrinks_sendToUserLevel o s

theorem shrinks_protocolOpen (cfg : Config) (id : SessionId) (p : ProtocolId) (v : String) :
    ∀ src, Shrinks (protocolOpen cfg o id p v src)
  | .external => shrinks_pushToSession o id _
  | .internal => fun s => Shrunk.refl s

theorem shrinks_protocolClose (cfg : Config) (id : SessionId) (p : ProtocolId) :
    ∀ src, Shrinks (protocolClose cfg o id p src)
  | .external => shrinks_pushToSession o id _
  | .internal => fun s => Shrunk.refl s

theorem shrinks_sendPendingTask : Shrinks (sendPendingTask o) := fun s => Shrunk.refl s

theorem shrinks_pushServiceProto (p : ProtocolId) (e : ServiceProtocolEvent) :
    Shrinks (pushServiceProto o p e) := fun s => by
  unfold pushServiceProto
  split
  · exact shrinks_distributeToUserLevel o _
  · exact Shrunk.refl s

theorem shrinks_pushSessionProto (k : SessionId × ProtocolId) (e : SessionProtocolEvent) :
    Shrinks (pushSessionProto o k e) := fun s => by
  unfold pushSessionProto
  split
  · exact shrinks_distributeToUserLevel o _
  · exact Shrunk.refl s

theorem shrinks_flushBuffer : Shrinks (flushBuffer o) :=
  Shrinks.seq
    (fun s => by split; exact Shrunk.refl s; exact shrinks_distributeToSession o s)
    (fun s => by split; exact Shrunk.refl s; exact shrinks_distributeToUserLevel o s)

/-- user task の処理は、どれも `listens` を増やさない。 -/
theorem shrinks_handleServiceTask (cfg : Config) (p : Priority) :
    ∀ t, Shrinks (handleServiceTask cfg o p t)
  | .protocolMessage .. => fun _ => shrinks_distributeToSession o _
  | .dial address target => fun s => by
    simp only [handleServiceTask, handleDial, dialInner]
    split <;> (try split) <;> exact Shrunk.refl _
  | .listen address => fun s => by
    simp only [handleServiceTask, handleListen, listenInner]
    split <;> (try split) <;> exact Shrunk.refl _
  | .disconnect id => shrinks_sessionClose o id _
  | .futureTask _ => fun _ => shrinks_sendPendingTask o _
  | .setProtocolNotify .. | .removeProtocolNotify .. => shrinks_pushServiceProto o _ _
  | .setProtocolSessionNotify .. | .removeProtocolSessionNotify .. => shrinks_pushSessionProto o _ _
  | .protocolOpen _ .all | .protocolOpen _ (.multi _) =>
    Shrinks.forEach (fun _ => shrinks_protocolOpen o cfg _ _ _ _) _
  | .protocolOpen _ (.single _) => shrinks_protocolOpen o cfg _ _ _ _
  | .protocolClose .. => shrinks_protocolClose o cfg _ _ _
  | .shutdown quick => shrinks_handleShutdown o quick

theorem sessionOpen_shrunk {cfg : Config} {h : Handle} {key : Option PublicKey} {a : Multiaddr}
    {ty : SessionType} {l : Option Multiaddr} {s s' : Service} {out : List Effect}
    (ho : sessionOpen cfg h key a ty l s = some (s', out)) : Shrunk s' s := by
  obtain ⟨s₀, rfl, ⟨-, rfl⟩ | ⟨a', -, ho⟩⟩ := sessionOpen_stages ho
  · exact Shrunk.refl s
  simp only [sessionOpenInsert, Option.map_eq_some', Prod.mk.injEq] at ho
  obtain ⟨s₁, hg, rfl, -⟩ := ho
  rw [(generateNextSession_spec hg).1]
  unfold sessionHandlesOpen
  split <;> exact Shrunk.refl _

/-- `ListenStart` の他の session event の処理は、`listens` を増やさない。 -/
theorem handleSessionEvent_shrunk {cfg : Config} {e : SessionEvent} {s s' : Service}
    {out : List Effect} (he : ∀ address, e ≠ .listenStart address)
    (h : handleSessionEvent cfg o e s = some (s', out)) : Shrunk s' s := by
  cases e <;> simp only [handleSessionEvent, Option.some.injEq, Prod.ext_iff] at h
  case handshakeSuccess =>
    obtain ⟨s₁, rfl, ⟨rfl, -⟩ | ⟨-, ho⟩⟩ := handleHandshakeSuccess_cases h
    · exact Shrunk.refl _
    · exact (sessionOpen_shrunk ho).trans (Shrunk.refl _)
  case handshakeError =>
    split at h <;> obtain ⟨rfl, -⟩ := Prod.ext_iff.mp (Option.some.inj h)
    all_goals exact Shrunk.refl _
  case listenStart address => exact absurd rfl (he address)
  all_goals obtain ⟨rfl, -⟩ := h
  case sessionClose => exact shrinks_sessionClose o _ _ s
  case protocolOpen => exact shrinks_protocolOpen o cfg _ _ _ _ s
  case protocolClose => exact shrinks_protocolClose o cfg _ _ _ s
  case listenError =>
    unfold handleListenError
    split
    · exact ⟨rfl, rfl, fun a h => (AList.mem_erase.mp h).2⟩
    · exact Shrunk.refl _
  case protocolHandleError => exact shrinks_handleShutdown o false s
  all_goals exact Shrunk.refl _

end Frame

/-- `user_task_poll` は、読んだ task を処理しても `listens` を増やさない。 -/
theorem userTaskPoll_shrunk (cfg : Config) (o : SendOracle) (task : Option (Priority × ServiceTask))
    (s : Service) : Shrunk (userTaskPoll cfg o task s).1 s := by
  rcases userTaskPoll_cases cfg o task s with ⟨h, -⟩ | ⟨p, t, -, h, -⟩
  · rw [h]; exact Shrunk.refl s
  · rw [h]; exact shrinks_handleServiceTask o cfg p t s

/-! ## handler の channel が切れない巡 -/

/-- どの handler の channel も切れていない。`try_send` が `Disconnect` に出会わないので、
`distribute_to_user_level` が shutdown することは無い。 -/
def SendOracle.HandlersLive (o : SendOracle) : Prop :=
  (∀ p, o.serviceProto p ≠ .disconnect) ∧ ∀ k, o.sessionProto k ≠ .disconnect

theorem Buffer.disconnect_of_trySend {α : Type} {b : Buffer α} {out : SendOutcome}
    (h : (b.trySend out).2.1 = .disconnect) : out = .disconnect := by
  cases out with
  | ok => simp [Buffer.trySend] at h
  | pending sent =>
    simp only [Buffer.trySend] at h
    split at h <;> simp at h
  | disconnect => rfl

theorem userLevelDisconnected_eq_false {o : SendOracle} (ho : o.HandlersLive) (s : Service) :
    userLevelDisconnected o s = false := by
  simp only [userLevelDisconnected, Bool.or_eq_false_iff, List.any_eq_false, decide_eq_true_eq]
  exact ⟨fun _ _ h => ho.1 _ (Buffer.disconnect_of_trySend h),
    fun _ _ h => ho.2 _ (Buffer.disconnect_of_trySend h)⟩

/-- handler の channel が切れていなければ、`try_update_listens` は `listens` と
`future_task_manager` を変えず、長さが違うときだけ `listens` の key を公開する。 -/
theorem tryUpdateListens_live {o : SendOracle} (ho : o.HandlersLive) (x : Service) :
    (tryUpdateListens o x).1.listens = x.listens ∧
      (tryUpdateListens o x).1.futureTaskManager = x.futureTaskManager ∧
      (tryUpdateListens o x).1.serviceContextListens =
        if x.listens.len = x.serviceContextListens.length then x.serviceContextListens
        else x.listens.keys := by
  unfold tryUpdateListens
  split
  · simp [*]
  · simp only [distributeToUserLevel, userLevelDisconnected_eq_false ho, if_false, *]
    split <;> simp [sendToUserLevel]

/-! ## 公開した list -/

/-- 公開した list が重複を持たず、`listens` と同じ集合である。 -/
structure ListensPublished (s : Service) : Prop where
  nodup : s.serviceContextListens.Nodup
  mem_iff : ∀ a, a ∈ s.serviceContextListens ↔ a ∈ s.listens

/-- `try_update_listens` の長さの比較が、集合の変化を見逃さない。公開した list に重複が無く、
長さが `listens` の数と同じなら、同じ集合である。 -/
structure LengthDetects (x : Service) : Prop where
  nodup : x.serviceContextListens.Nodup
  mem_iff_of_len : x.listens.len = x.serviceContextListens.length →
    ∀ a, a ∈ x.serviceContextListens ↔ a ∈ x.listens

/-- 公開した list に重複が無く、まだ何も公開していないか、`listens` のどの address も公開した
list にある。前の公開の後に取り除かれただけなら、そうなっている。 -/
structure Covers (s : Service) : Prop where
  nodup : s.serviceContextListens.Nodup
  covers : s.serviceContextListens = [] ∨ ∀ a ∈ s.listens, a ∈ s.serviceContextListens

theorem ListensPublished.length_eq {s : Service} (h : ListensPublished s) :
    s.serviceContextListens.length = s.listens.len := by
  rw [AList.len_eq_length_keys]
  refine ((List.perm_ext_iff_of_nodup h.nodup (AList.keys_nodup _)).mpr fun a => ?_).length_eq
  exact (h.mem_iff a).trans AList.mem_keys

theorem ListensPublished.covers {s : Service} (h : ListensPublished s) : Covers s :=
  ⟨h.nodup, .inr fun a ha => (h.mem_iff a).mpr ha⟩

theorem Covers.of_eq {s s' : Service} (hp : s'.serviceContextListens = s.serviceContextListens)
    (hl : s'.listens = s.listens) (h : Covers s) : Covers s' :=
  ⟨hp ▸ h.nodup, by rw [hp, hl]; exact h.covers⟩

theorem Covers.of_shrunk {s s' : Service} (hs : Shrunk s' s) (h : Covers s) : Covers s' :=
  ⟨hs.1 ▸ h.nodup, by rw [hs.1]; exact h.covers.imp id fun hc a ha => hc a (hs.2.2 a ha)⟩

/-- 公開した list が空か `listens` を覆っていれば、長さが同じときは同じ集合である。覆う側に
重複が無いので、`listens` の key の列はその部分置換で、長さが同じなら置換になる。 -/
theorem Covers.lengthDetects {x : Service} (h : Covers x) : LengthDetects x := by
  refine ⟨h.nodup, fun hlen a => ?_⟩
  rw [AList.len_eq_length_keys] at hlen
  rcases h.covers with h0 | hc
  · rw [h0, List.length_nil, List.length_eq_zero] at hlen
    rw [h0, AList.mem_keys, hlen]
  · have hp : x.listens.keys.Perm x.serviceContextListens :=
      (List.subperm_of_subset (AList.keys_nodup _) fun a ha => hc a (AList.mem_keys.mpr ha)
        ).perm_of_length_le hlen.ge
    exact hp.mem_iff.symm.trans AList.mem_keys.symm

/-- 長さの比較が変化を見逃さなければ、`try_update_listens` の後には公開した list が
`listens` と同じ集合になる。 -/
theorem tryUpdateListens_published {o : SendOracle} (ho : o.HandlersLive) {x : Service}
    (hx : LengthDetects x) : ListensPublished (tryUpdateListens o x).1 := by
  obtain ⟨hl, -, hp⟩ := tryUpdateListens_live ho x
  by_cases hlen : x.listens.len = x.serviceContextListens.length
  · rw [if_pos hlen] at hp
    exact ⟨hp ▸ hx.nodup, fun a => by rw [hp, hl]; exact hx.mem_iff_of_len hlen a⟩
  · rw [if_neg hlen] at hp
    exact ⟨hp ▸ AList.keys_nodup _, fun a => by rw [hp, hl]; exact AList.mem_keys.symm⟩

/-- 公開した list が `listens` と同じ集合なら、`ListenStart` で address を一つ足した後の
長さの比較は変化を見逃さない。新しい address なら長さが違い、そうでなければ集合は変わらない。 -/
theorem lengthDetects_listenStart {a : Service} (h : ListensPublished a) (address : Multiaddr) :
    LengthDetects { a with listens := a.listens.insert address (), state := a.state.decrease } := by
  by_cases hm : address ∈ a.listens
  · refine Covers.lengthDetects ⟨h.nodup, .inr fun b hb => (h.mem_iff b).mpr ?_⟩
    rcases (AList.mem_insert _).mp hb with rfl | hb
    · exact hm
    · exact hb
  · refine ⟨h.nodup, fun hlen => absurd hlen ?_⟩
    simp only [AList.len_insert_of_not_mem hm, h.length_eq]
    omega

/-! ## 一巡の二つの呼び出し -/

/-- 一巡の初めの初期化。`pollBody` の最初の `let` である。 -/
def roundInit (cfg : Config) (s : Service) : Service :=
  if s.futureTaskManager then initProtoHandles cfg { s with futureTaskManager := false } else s

@[simp] theorem roundInit_listens (cfg : Config) (s : Service) :
    (roundInit cfg s).listens = s.listens := by
  unfold roundInit; split <;> rfl

@[simp] theorem roundInit_serviceContextListens (cfg : Config) (s : Service) :
    (roundInit cfg s).serviceContextListens = s.serviceContextListens := by
  unfold roundInit; split <;> rfl

@[simp] theorem roundInit_futureTaskManager (cfg : Config) (s : Service) :
    (roundInit cfg s).futureTaskManager = false := by
  unfold roundInit; split
  · rfl
  · simpa using ‹¬s.futureTaskManager = true›

/-- 状態 `s` から始まる巡で、初期化と flush の後に `try_update_listens` に渡る状態。 -/
def updateArg (cfg : Config) (o : SendOracle) (s : Service) : Service :=
  (flushBuffer o (roundInit cfg s)).1

/-- `try_update_listens` が `x` から作って `distribute_to_user_level` に渡す状態 `y` は、list `l` を
公開し、`x` のどの service の handler の buffer にも、どの session の handler の buffer にも
`Update(l)` を積んだものである。 -/
structure PushesUpdate (x y : Service) (l : List Multiaddr) : Prop where
  published : y.serviceContextListens = l
  service : ∀ p, y.serviceProtoHandles.lookup p =
    (x.serviceProtoHandles.lookup p).map (·.push (.update l))
  session : ∀ k, y.sessionProtoHandles.lookup k =
    (x.sessionProtoHandles.lookup k).map (·.push (.update l))

/-- 長さが違えば、`try_update_listens` は `listens` の key を公開し、全部の handler の buffer に
`Update` を積んでから `distribute_to_user_level` を呼ぶ。 -/
theorem tryUpdateListens_pushes (o : SendOracle) {x : Service}
    (hlen : x.listens.len ≠ x.serviceContextListens.length) :
    ∃ y, PushesUpdate x y x.listens.keys ∧ tryUpdateListens o x = distributeToUserLevel o y :=
  ⟨_, ⟨rfl, fun p => AList.lookup_mapVal _ _ p, fun k => AList.lookup_mapVal _ _ k⟩,
    if_neg hlen⟩

/-- `try_update_listens` の一つの呼び出しの引数 `x` について：長さの比較は集合の変化を見逃さず、
呼び出しの後には公開した list が `listens` と同じ集合になり、集合が変わっていれば新しい list を
公開して、全部の handler の buffer に `Update` を積む。 -/
structure UpdatePublishes (o : SendOracle) (x : Service) : Prop where
  detects : LengthDetects x
  published : ListensPublished (tryUpdateListens o x).1
  pushes : (¬ ∀ a, a ∈ x.serviceContextListens ↔ a ∈ x.listens) →
    ∃ y, PushesUpdate x y x.listens.keys ∧ tryUpdateListens o x = distributeToUserLevel o y

theorem UpdatePublishes.of_lengthDetects {o : SendOracle} (ho : o.HandlersLive) {x : Service}
    (hx : LengthDetects x) : UpdatePublishes o x :=
  ⟨hx, tryUpdateListens_published ho hx,
    fun hc => tryUpdateListens_pushes o fun hlen => hc (hx.mem_iff_of_len hlen)⟩

/-- 状態 `s` から始まる巡で `try_update_listens` を呼ぶ二つの所、flush の後と `ListenStart` の
処理の中のどちらの呼び出しも `UpdatePublishes` を満たす。`ListenStart` はその巡の最初の
呼び出しの直後の状態で処理される。 -/
def RoundPublishes (cfg : Config) (o : SendOracle) (s : Service) : Prop :=
  UpdatePublishes o (updateArg cfg o s) ∧
    ∀ address, let a := (tryUpdateListens o (updateArg cfg o s)).1
      UpdatePublishes o { a with listens := a.listens.insert address (), state := a.state.decrease }

theorem roundPublishes_of_covers {cfg : Config} {o : SendOracle} (ho : o.HandlersLive)
    {s : Service} (h : Covers s) : RoundPublishes cfg o s := by
  have hx : Covers (updateArg cfg o s) :=
    (h.of_eq (by simp) (by simp)).of_shrunk (shrinks_flushBuffer o _)
  have ha := UpdatePublishes.of_lengthDetects ho hx.lengthDetects
  exact ⟨ha, fun address => .of_lengthDetects ho (lengthDetects_listenStart ha.published address)⟩

/-! ## run 全体 -/

/-- run の上で保たれる条件。公開した list が `listens` を覆い、最初の巡より前には何も
公開していない。 -/
structure ListensCovered (s : Service) : Prop where
  covers : Covers s
  unpublished : s.futureTaskManager = true → s.serviceContextListens = []

theorem ListensCovered.of_shrunk {s s' : Service} (hs : Shrunk s' s) (h : ListensCovered s) :
    ListensCovered s' :=
  ⟨h.covers.of_shrunk hs, fun hf => hs.1.trans (h.unpublished (hs.2.1 ▸ hf))⟩

theorem ListensCovered.of_published {s : Service} (h : ListensPublished s)
    (hf : s.futureTaskManager = false) : ListensCovered s :=
  ⟨h.covers, fun ht => absurd (hf ▸ ht) Bool.false_ne_true⟩

theorem updated_futureTaskManager (cfg : Config) {o : SendOracle} (ho : o.HandlersLive)
    (s : Service) : (tryUpdateListens o (updateArg cfg o s)).1.futureTaskManager = false :=
  (tryUpdateListens_live ho _).2.1.trans
    ((shrinks_flushBuffer o _).2.1.trans (roundInit_futureTaskManager cfg s))

/-- 巡の最初の呼び出しの後で `session_poll` が何をしても、条件は保たれる。`ListenStart` は
中の呼び出しで公開し直し、他の event は `listens` を増やさない。 -/
theorem ListensCovered.sessionPoll {cfg : Config} {o : SendOracle} (ho : o.HandlersLive)
    {ev : Option SessionEvent} {s b : Service} {out : List Effect} {p : Bool}
    (hr : RoundPublishes cfg o s)
    (hb : sessionPoll cfg o ev (tryUpdateListens o (updateArg cfg o s)).1 = some (b, out, p)) :
    ListensCovered b := by
  have hf := updated_futureTaskManager cfg ho s
  rcases sessionPoll_cases hb with ⟨rfl, -⟩ | ⟨e, -, he⟩
  · exact .of_published hr.1.published hf
  by_cases hl : ∃ address, e = .listenStart address
  · obtain ⟨address, rfl⟩ := hl
    simp only [handleSessionEvent, handleListenStart, Option.some.injEq, Prod.ext_iff] at he
    rw [← he.1]
    exact .of_published (hr.2 address).published ((tryUpdateListens_live ho _).2.1.trans hf)
  · exact (ListensCovered.of_published hr.1.published hf).of_shrunk
      (handleSessionEvent_shrunk o (fun address h => hl ⟨address, h⟩) he)

/-- handler の channel が切れない巡は条件を保つ。 -/
theorem ListensCovered.pollNext {cfg : Config} {r : RoundInput} (ho : r.oracle.HandlersLive)
    {s : Service} {res : RoundResult} (h : ListensCovered s) (hp : pollNext cfg r s = some res) :
    ListensCovered res.service := by
  have body : ∀ b, pollBody cfg r s = some b → ListensCovered b.1 := fun b hb => by
    obtain ⟨c, hc, hb⟩ := pollBody_cases hb
    rw [hb]
    exact ((ListensCovered.sessionPoll ho (roundPublishes_of_covers ho h.covers) hc).of_shrunk
      (userTaskPoll_shrunk cfg r.oracle r.task _)).of_shrunk (shrinks_sendPendingTask r.oracle _)
  rcases pollNext_cases hp with hs | ⟨b, hb, hs | hs⟩ <;> rw [hs]
  · exact h.of_shrunk (Shrunk.setShutdown s)
  · exact body b hb
  · exact (body b hb).of_shrunk (Shrunk.setShutdown _)

/-- 公開の `listen` を最初の巡より前（`future_task_manager` がまだ `Some` のうち）にだけ呼び、
どの巡でも handler の channel が切れていない run。 -/
inductive ListenFirst (cfg : Config) (forever : Bool) : Service → List Effect → Prop where
  | init : ListenFirst cfg forever (Service.new forever) []
  | round {s : Service} {log : List Effect} {res : RoundResult} (r : RoundInput) :
      r.oracle.HandlersLive → ListenFirst cfg forever s log → pollNext cfg r s = some res →
      ListenFirst cfg forever res.service (log ++ res.out)
  | listen {s s' : Service} {log out : List Effect} (address : Multiaddr)
      (result : Except String Multiaddr) : s.futureTaskManager = true →
      ListenFirst cfg forever s log → step cfg (.listen address result) s = some (s', out) →
      ListenFirst cfg forever s' (log ++ out)
  | dial {s s' : Service} {log out : List Effect} (address : Multiaddr) (target : TargetProtocol)
      (result : Except String (Multiaddr × Handle)) :
      ListenFirst cfg forever s log → step cfg (.dial address target result) s = some (s', out) →
      ListenFirst cfg forever s' (log ++ out)

theorem ListenFirst.reachable {cfg : Config} {forever : Bool} {s : Service} {log : List Effect}
    (h : ListenFirst cfg forever s log) : Reachable cfg forever s log := by
  induction h with
  | init => exact .init
  | round r _ _ hr ih => exact .step (.round r) ih (by simp [step, hr])
  | listen address result _ _ hs ih => exact .step _ ih hs
  | dial address target result _ hs ih => exact .step _ ih hs

end Tentacle
