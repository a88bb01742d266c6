import Tentacle.Properties.Frame

/-!
# session の表を変える三つの操作と、run 全体の不変条件

* `sessionClose_internal_*` — 内からの `session_close` が表と handler の key と effect に
  することを、定義を開かずに使える形で言う
* `Opened` と `sessionOpen_cases` — `session_open` は断って何も変えないか、空いた id に
  一つ入れて `SessionOpen` を一つ出すかのどちらかである
* `StepInvariant.reachable` — `Quiet` な変化・内からの close・`Opened` で保たれる条件は、
  run のどの時点でも成り立つ
-/

namespace Tentacle

/-! ## 内からの session_close -/

section Close

variable (o : SendOracle) (id : SessionId) (s : Service)

theorem sessionClose_internal_contexts (j : SessionId) :
    (sessionClose o id .internal s).1.contexts j = if j = id then none else s.contexts j := by
  simp only [sessionClose, Service.contexts]
  split
  · by_cases hj : j = id
    · subst hj; simp
    · simp [hj, AList.lookup_erase_ne hj]
  · rename_i hn
    split
    · subst j; simp [hn]
    · rfl

theorem mem_sessionClose_internal_handles {k : SessionId × ProtocolId} :
    k ∈ (sessionClose o id .internal s).1.sessionProtoHandles ↔
      k.1 ≠ id ∧ k ∈ s.sessionProtoHandles := by
  have : k ∈ s.sessionProtoHandles.retain (fun k => id != k.1) ↔
      k.1 ≠ id ∧ k ∈ s.sessionProtoHandles := by
    rw [AList.mem_retain, bne_iff_ne, ne_comm]
  simp only [sessionClose]
  split <;> exact this

theorem sessionClose_internal_out :
    (sessionClose o id .internal s).2 =
      ((s.contexts id).map fun c => Effect.event (.sessionClose c)).toList := by
  simp only [sessionClose, Service.contexts]
  split <;> simp [*]

end Close

/-! ## session_open -/

theorem nextFreeSession_not_mem {m : HashMap SessionId SessionController} :
    ∀ {n : Nat} {id id' : SessionId}, nextFreeSession m n id = some id' → id' ∉ m
  | 0, _, _, h => by simp [nextFreeSession] at h
  | n + 1, id, id', h => by
    unfold nextFreeSession at h
    split at h
    · exact nextFreeSession_not_mem h
    · cases h; assumption

theorem generateNextSession_spec {s s' : Service} (h : generateNextSession s = some s') :
    s' = { s with nextSession := s'.nextSession } ∧ s'.nextSession ∉ s.sessions := by
  simp only [generateNextSession, Option.map_eq_some'] at h
  obtain ⟨id, hid, rfl⟩ := h
  exact ⟨rfl, nextFreeSession_not_mem hid⟩

theorem lookup_foldl_insert (id : SessionId) (b : Buffer SessionProtocolEvent) :
    ∀ (ps : List ProtocolId) (m : HashMap (SessionId × ProtocolId) (Buffer SessionProtocolEvent))
      (k : SessionId × ProtocolId), (ps.foldl (fun m p => m.insert (id, p) b) m).lookup k =
        if k.1 = id ∧ k.2 ∈ ps then some b else m.lookup k
  | [], m, k => by simp
  | p :: ps, m, k => by
    rw [List.foldl_cons, lookup_foldl_insert id b ps]
    by_cases hk : k = (id, p)
    · subst hk; simp
    · rw [AList.lookup_insert_ne hk]
      obtain ⟨k1, k2⟩ := k
      simp only [Prod.mk.injEq, not_and] at hk
      by_cases h1 : k1 = id <;> simp_all

theorem mem_foldl_insert (id : SessionId) (b : Buffer SessionProtocolEvent)
    (ps : List ProtocolId) (m : HashMap (SessionId × ProtocolId) (Buffer SessionProtocolEvent))
    (k : SessionId × ProtocolId) :
    k ∈ ps.foldl (fun m p => m.insert (id, p) b) m ↔ k ∈ m ∨ (k.1 = id ∧ k.2 ∈ ps) := by
  rw [← AList.lookup_isSome, lookup_foldl_insert, ← AList.lookup_isSome]
  split <;> simp [*]

theorem sessionHandlesOpen_sessions (cfg : Config) (id : SessionId) (s : Service) :
    (sessionHandlesOpen cfg id s).sessions = s.sessions := by
  unfold sessionHandlesOpen; split <;> rfl

theorem mem_sessionHandlesOpen (cfg : Config) {id : SessionId} {s : Service} (h : id ∈ s.sessions)
    (k : SessionId × ProtocolId) :
    k ∈ (sessionHandlesOpen cfg id s).sessionProtoHandles ↔
      k ∈ s.sessionProtoHandles ∨ (k.1 = id ∧ k.2 ∈ sessionHandleProtocols cfg) := by
  simp only [sessionHandlesOpen, h, ↓reduceIte]
  exact mem_foldl_insert id _ _ _ k

theorem mem_values {V : Type} {K : Type} [DecidableEq K] {m : HashMap K V} {c : V} :
    c ∈ m.values ↔ ∃ k, m.lookup k = some c := by
  simp only [AList.values, List.mem_map]
  constructor
  · rintro ⟨⟨k, c'⟩, h, rfl⟩
    exact ⟨k, AList.mem_lookup_iff.mpr h⟩
  · rintro ⟨k, h⟩
    exact ⟨⟨k, c⟩, AList.mem_lookup_iff.mp h, rfl⟩

/-- 検査で断るときに出すのは、接続の `poll_shutdown` と error の報告だけである。 -/
theorem sessionOpenCheck_error {cfg : Config} {s : Service} {h : Handle}
    {key : Option PublicKey} {a : Multiaddr} {ty : SessionType} {l : Option Multiaddr}
    {out : List Effect} (hc : sessionOpenCheck cfg s h key a ty l = some (.error out)) :
    ∀ e ∈ out, e = .shutdownHandle h ∨ ∃ err, e = .error err := by
  unfold sessionOpenCheck at hc
  split at hc
  · cases hc
  · split at hc
    · split at hc
      · cases hc; simp
      · simp only [Option.map_eq_some', Except.error.injEq] at hc
        obtain ⟨_, _, rfl⟩ := hc
        simp
    · split at hc
      · split at hc
        · cases hc; simp
        · cases hc
      · cases hc

/-- 検査を通すのは、同じ公開鍵の session が無いときだけである。 -/
theorem sessionOpenCheck_ok {cfg : Config} {s : Service} {h : Handle}
    {key : Option PublicKey} {a a' : Multiaddr} {ty : SessionType} {l : Option Multiaddr}
    (hc : sessionOpenCheck cfg s h key a ty l = some (.ok a')) :
    ∀ k, key = some k → ∀ j c, s.contexts j = some c → c.remotePubkey ≠ some k := by
  rintro k rfl j c hj hk
  simp only [sessionOpenCheck] at hc
  split at hc
  · rename_i c' _
    split at hc
    · cases hc
    · simp only [Option.map_eq_some'] at hc
      obtain ⟨_, _, hc⟩ := hc
      cases hc
  · rename_i hfind
    simp only [Service.contexts, Option.map_eq_some'] at hj
    obtain ⟨c', hc', rfl⟩ := hj
    have := List.find?_eq_none.mp hfind c' (mem_values.mpr ⟨j, hc'⟩)
    simp [hk] at this

/-- address `a` が公開鍵 `k` の peer id に結びついている。address の peer id が `k` のものか、
peer id を持たない address に `k` の peer id の `p2p` component を足したものである。 -/
def PeerIdBound (cfg : Config) (k : PublicKey) (a : Multiaddr) : Prop :=
  extractPeerId cfg a = some (cfg.peerIdOf k) ∨
    ∃ a₀, extractPeerId cfg a₀ = none ∧ a = a₀ ++ [.p2p (cfg.peerIdOf k).bytes]

/-- 検査を通した address は、公開鍵の peer id に結びついている。 -/
theorem sessionOpenCheck_peerIdBound {cfg : Config} {s : Service} {h : Handle}
    {key : Option PublicKey} {a a' : Multiaddr} {ty : SessionType} {l : Option Multiaddr}
    (hc : sessionOpenCheck cfg s h key a ty l = some (.ok a')) :
    ∀ k, key = some k → PeerIdBound cfg k a' := by
  rintro k rfl
  simp only [sessionOpenCheck] at hc
  split at hc
  · split at hc
    · cases hc
    · obtain ⟨_, _, ⟨⟩⟩ := Option.map_eq_some'.mp hc
  · split at hc
    · split at hc
      · cases hc
      · cases hc
        exact .inl (by simp_all)
    · cases hc
      exact .inr ⟨a, ‹_›, rfl⟩

/-- `session_open` が session を一つ開いたときに起きたこと。 -/
structure Opened (cfg : Config) (key : Option PublicKey) (s s' : Service) (out : List Effect)
    (ctx : SessionContext) : Prop where
  /-- 新しい id は、開く前には使われていない。 -/
  fresh : s.contexts ctx.id = none
  pubkey : ctx.remotePubkey = key
  /-- 同じ公開鍵の session は、開く前には無い。 -/
  unique : ∀ k, key = some k → ∀ j c, s.contexts j = some c → c.remotePubkey ≠ some k
  /-- 記録する address は、公開鍵の peer id に結びついている。 -/
  peerId : ∀ k, key = some k → PeerIdBound cfg k ctx.address
  contexts : ∀ j, s'.contexts j = if j = ctx.id then some ctx else s.contexts j
  /-- handler の buffer は、新しい id について handler を持つ protocol の分だけ増える。 -/
  handles : ∀ k, k ∈ s'.sessionProtoHandles ↔
    k ∈ s.sessionProtoHandles ∨ (k.1 = ctx.id ∧ k.2 ∈ sessionHandleProtocols cfg)
  effects : ∃ t, out = [.spawn t, .event (.sessionOpen ctx)]

/-- `Opened` は表と handler の key しか見ないので、それが同じ状態に移せる。 -/
theorem Opened.congr {cfg : Config} {key : Option PublicKey} {s₀ s s' : Service}
    {out : List Effect} {ctx : SessionContext} (h : Opened cfg key s₀ s' out ctx)
    (hc : s₀.contexts = s.contexts) (hh : s₀.sessionProtoHandles = s.sessionProtoHandles) :
    Opened cfg key s s' out ctx where
  fresh := hc ▸ h.fresh
  pubkey := h.pubkey
  unique := hc ▸ h.unique
  peerId := h.peerId
  contexts := hc ▸ h.contexts
  handles := hh ▸ h.handles
  effects := h.effects

theorem sessionOpenInsert_opened {cfg : Config} {h : Handle} {key : Option PublicKey}
    {a : Multiaddr} {ty : SessionType} {target : TargetProtocol} {s s' : Service}
    {out : List Effect} (hi : sessionOpenInsert cfg h key a ty target s = some (s', out))
    (hu : ∀ k, key = some k → ∀ j c, s.contexts j = some c → c.remotePubkey ≠ some k)
    (hp : ∀ k, key = some k → PeerIdBound cfg k a) :
    ∃ ctx, Opened cfg key s s' out ctx := by
  simp only [sessionOpenInsert, Option.map_eq_some', Prod.mk.injEq] at hi
  obtain ⟨s₁, hg, rfl, rfl⟩ := hi
  obtain ⟨hs₁, hfree⟩ := generateNextSession_spec hg
  have hsessions : s₁.sessions = s.sessions := by rw [hs₁]
  have hhandles : s₁.sessionProtoHandles = s.sessionProtoHandles := by rw [hs₁]
  have hmem : s₁.nextSession ∈ s₁.sessions.insert s₁.nextSession
      ⟨⟨s₁.nextSession, a, ty, key⟩, Buffer.new⟩ := AList.mem_insert _ |>.mpr (.inl rfl)
  refine ⟨⟨s₁.nextSession, a, ty, key⟩, ?_, rfl, hu, hp, ?_, fun k => ?_, ⟨_, rfl⟩⟩
  · simpa [Service.contexts, AList.lookup_eq_none] using hfree
  · intro j
    simp only [Service.contexts, sessionHandlesOpen_sessions]
    by_cases hj : j = s₁.nextSession
    · subst hj; simp
    · simp [hj, hsessions]
  · rw [mem_sessionHandlesOpen cfg hmem, ← hhandles]

/-- `session_open` は dial の記録を取り出して消し、検査で断るか、検査を通して挿入の段に進む。 -/
theorem sessionOpen_stages {cfg : Config} {h : Handle} {key : Option PublicKey} {a : Multiaddr}
    {ty : SessionType} {l : Option Multiaddr} {s s' : Service} {out : List Effect}
    (ho : sessionOpen cfg h key a ty l s = some (s', out)) :
    ∃ s₀ : Service, s₀ = { s with dialProtocols := s.dialProtocols.erase a } ∧
      ((sessionOpenCheck cfg s₀ h key a ty l = some (.error out) ∧ s' = s₀) ∨
        ∃ a', sessionOpenCheck cfg s₀ h key a ty l = some (.ok a') ∧
          sessionOpenInsert cfg h key a' ty ((s.dialProtocols.lookup a).getD .all) s₀ =
            some (s', out)) := by
  simp only [sessionOpen, Option.bind_eq_some] at ho
  obtain ⟨r, hc, ho⟩ := ho
  cases r with
  | error out' => cases ho; exact ⟨_, rfl, .inl ⟨hc, rfl⟩⟩
  | ok a' => exact ⟨_, rfl, .inr ⟨a', hc, ho⟩⟩

/-- `session_open` は断って表を変えないか、session を一つ開くかのどちらかである。 -/
theorem sessionOpen_cases {cfg : Config} {h : Handle} {key : Option PublicKey} {a : Multiaddr}
    {ty : SessionType} {l : Option Multiaddr} {s s' : Service} {out : List Effect}
    (ho : sessionOpen cfg h key a ty l s = some (s', out)) :
    (s'.contexts = s.contexts ∧ s'.sessionProtoHandles = s.sessionProtoHandles ∧
      ∀ e ∈ out, e.opensOrCloses = false) ∨ ∃ ctx, Opened cfg key s s' out ctx := by
  obtain ⟨s₀, rfl, ⟨hc, rfl⟩ | ⟨a', hc, ho⟩⟩ := sessionOpen_stages ho
  · refine .inl ⟨rfl, rfl, fun e he => ?_⟩
    rcases sessionOpenCheck_error hc e he with rfl | ⟨_, rfl⟩ <;> rfl
  · obtain ⟨ctx, hctx⟩ :=
      sessionOpenInsert_opened ho (sessionOpenCheck_ok hc) (sessionOpenCheck_peerIdBound hc)
    exact .inr ⟨ctx, hctx.congr rfl rfl⟩

/-- `session_open` が `Session` を spawn するのは検査を通って挿入したときで、その `Session` は
渡された handle を持ち、`sessions` はちょうど一つ増え、state は変わらない。 -/
theorem sessionOpen_spawn {cfg : Config} {h : Handle} {key : Option PublicKey} {a : Multiaddr}
    {ty : SessionType} {l : Option Multiaddr} {s s' : Service} {out : List Effect}
    (ho : sessionOpen cfg h key a ty l s = some (s', out)) {id : SessionId} {h' : Handle}
    {senders : List (ProtocolId × List SessionProtocolEvent)} {opened : List String}
    (hm : Effect.spawn (.session id h' senders opened) ∈ out) :
    h' = h ∧ s'.state = s.state ∧ s'.sessions.len = s.sessions.len + 1 ∧
      (∀ k, key = some k → ∀ j c, s.contexts j = some c → c.remotePubkey ≠ some k) ∧
      ∃ c, s'.contexts id = some c ∧ c.remotePubkey = key := by
  obtain ⟨s₀, rfl, ⟨hc, rfl⟩ | ⟨a', hc, ho⟩⟩ := sessionOpen_stages ho
  · rcases sessionOpenCheck_error hc _ hm with hm | ⟨_, hm⟩ <;> cases hm
  have hu := sessionOpenCheck_ok hc
  simp only [sessionOpenInsert, Option.map_eq_some', Prod.mk.injEq] at ho
  obtain ⟨s₁, hg, rfl, rfl⟩ := ho
  obtain ⟨hs₁, hfree⟩ := generateNextSession_spec hg
  simp only [List.mem_cons, Effect.spawn.injEq, FutureTask.session.injEq, reduceCtorEq,
    List.not_mem_nil, or_false] at hm
  obtain ⟨rfl, rfl, -, -⟩ := hm
  have hst : s₁.state = s.state := by rw [hs₁]
  have hss : s₁.sessions = s.sessions := by rw [hs₁]
  refine ⟨rfl, by unfold sessionHandlesOpen; split <;> exact hst, ?_, hu,
    ⟨s₁.nextSession, a', ty, key⟩, ?_, rfl⟩
  · rw [sessionHandlesOpen_sessions, AList.len_insert_of_not_mem (hss ▸ hfree), hss]
  · simp [Service.contexts, sessionHandlesOpen_sessions]

/-- `HandshakeSuccess` の分岐は、outbound なら pending を一つ減らし、上限に達していれば
そのまま何もせず、そうでなければ `session_open` する。state の他は変えずに渡る。 -/
theorem handleHandshakeSuccess_cases {cfg : Config} {h : Handle} {key : Option PublicKey}
    {a : Multiaddr} {ty : SessionType} {l : Option Multiaddr} {s s' : Service} {out : List Effect}
    (he : handleHandshakeSuccess cfg h key a ty l s = some (s', out)) :
    ∃ s₁ : Service, s₁ = { s with state := if ty.isOutbound then s.state.decrease else s.state } ∧
      ((s' = s₁ ∧ out = []) ∨
        (reachedMaxConnectionLimit cfg s₁ = false ∧ sessionOpen cfg h key a ty l s₁ = some (s', out))) := by
  simp only [handleHandshakeSuccess] at he
  generalize hs₁ : (if ty.isOutbound then { s with state := s.state.decrease } else s) = s₁ at he
  refine ⟨s₁, by rw [← hs₁]; split <;> rfl, ?_⟩
  split at he
  · cases he; exact .inl ⟨rfl, rfl⟩
  · exact .inr ⟨Bool.eq_false_iff.mpr ‹_›, he⟩

/-! ## run 全体 -/

/-- `session_poll` は何もしないか、読んだ event を処理する。 -/
theorem sessionPoll_cases {cfg : Config} {o : SendOracle} {ev : Option SessionEvent}
    {s s' : Service} {out : List Effect} {p : Bool}
    (hp : sessionPoll cfg o ev s = some (s', out, p)) :
    (s' = s ∧ out = []) ∨ ∃ e, ev = some e ∧ handleSessionEvent cfg o e s = some (s', out) := by
  unfold sessionPoll at hp
  split at hp
  · cases hp; exact .inl ⟨rfl, rfl⟩
  split at hp
  · obtain ⟨_, hq, ⟨⟩⟩ := Option.map_eq_some'.mp hp
    exact .inr ⟨_, rfl, hq⟩
  · split at hp <;> cases hp
    exact .inl ⟨rfl, rfl⟩

/-- `user_task_poll` は何もしないか、読んだ task を処理する。 -/
theorem userTaskPoll_cases (cfg : Config) (o : SendOracle) (task : Option (Priority × ServiceTask))
    (s : Service) :
    ((userTaskPoll cfg o task s).1 = s ∧ (userTaskPoll cfg o task s).2.1 = []) ∨
      ∃ p t, task = some (p, t) ∧ (userTaskPoll cfg o task s).1 = (handleServiceTask cfg o p t s).1 ∧
        (userTaskPoll cfg o task s).2.1 = (handleServiceTask cfg o p t s).2 := by
  unfold userTaskPoll
  split
  · exact .inl ⟨rfl, rfl⟩
  split
  · exact .inr ⟨_, _, rfl, rfl, rfl⟩
  · exact .inl ⟨rfl, rfl⟩

/-- 一巡の本体は、初期化と flush と listen の更新の後で `session_poll` が結果を返したときだけ
結果を返し、その後に `user_task_poll` と `send_pending_task` を続けた状態になる。 -/
theorem pollBody_cases {cfg : Config} {r : RoundInput} {s : Service}
    {b : Service × List Effect × Bool × Bool} (hb : pollBody cfg r s = some b) :
    ∃ c, sessionPoll cfg r.oracle r.event (tryUpdateListens r.oracle (flushBuffer r.oracle
        (if s.futureTaskManager then initProtoHandles cfg { s with futureTaskManager := false }
          else s)).1).1 = some c ∧
      b.1 = (sendPendingTask r.oracle (userTaskPoll cfg r.oracle r.task c.1).1).1 := by
  unfold pollBody at hb
  obtain ⟨c, hc, rfl⟩ := Option.map_eq_some'.mp hb
  rw [Op.seq_fst] at hc
  exact ⟨c, hc, rfl⟩

/-- `poll_next` は頭の終了判定で shutdown flag を立てるか、一巡の本体の後の状態を返す。
尻の終了判定が通れば、その状態に shutdown flag を立てる。 -/
theorem pollNext_cases {cfg : Config} {r : RoundInput} {s : Service} {res : RoundResult}
    (hp : pollNext cfg r s = some res) :
    res.service = { s with shutdown := true } ∨
      ∃ b, pollBody cfg r s = some b ∧
        (res.service = b.1 ∨ res.service = { b.1 with shutdown := true }) := by
  unfold pollNext at hp
  split at hp
  · cases hp; exact .inl rfl
  · obtain ⟨b, hb, rfl⟩ := Option.map_eq_some'.mp hp
    refine .inr ⟨b, hb, ?_⟩
    split
    · exact .inr rfl
    · exact .inl rfl

theorem quiet_listen (cfg : Config) (address : Multiaddr) (result : Except String Multiaddr) :
    Quiet fun s => ((listen cfg address result s).1, (listen cfg address result s).2.1) :=
  ⟨fun s => by unfold listen; split <;> rfl,
   fun s k h => by unfold listen at h; split at h <;> exact h,
   fun s e h => by
    unfold listen at h
    split at h <;> simp at h
    rcases h with rfl | rfl <;> rfl⟩

theorem quiet_dial (cfg : Config) (address : Multiaddr) (target : TargetProtocol)
    (result : Except String (Multiaddr × Handle)) :
    Quiet fun s => ((dial cfg address target result s).1, (dial cfg address target result s).2.1) :=
  ⟨fun s => by unfold dial; split <;> rfl,
   fun s k h => by unfold dial at h; split at h <;> exact h,
   fun s e h => by
    unfold dial at h
    split at h <;> simp at h
    subst h; rfl⟩

/-- `Quiet` な変化・内からの close・`Opened` のどれでも保たれる条件。 -/
structure StepInvariant (cfg : Config) (Inv : Service → List Effect → Prop) : Prop where
  quiet {s s' : Service} {log out : List Effect} : Inv s log → s'.contexts = s.contexts →
    (∀ k ∈ s'.sessionProtoHandles, k ∈ s.sessionProtoHandles) →
    (∀ e ∈ out, e.opensOrCloses = false) → Inv s' (log ++ out)
  close (o : SendOracle) (id : SessionId) {s : Service} {log : List Effect} : Inv s log →
    Inv (sessionClose o id .internal s).1 (log ++ (sessionClose o id .internal s).2)
  opened {s s' : Service} {log out : List Effect} {key : Option PublicKey} {ctx : SessionContext} :
    Inv s log → Opened cfg key s s' out ctx → Inv s' (log ++ out)

namespace StepInvariant

variable {cfg : Config} {Inv : Service → List Effect → Prop} (hI : StepInvariant cfg Inv)
include hI

/-- 表と handler の key を変えず、何も起こさない状態の書き換え。 -/
theorem update {s : Service} {log : List Effect} (s' : Service) (hs : Inv s log)
    (hc : s'.contexts = s.contexts) (hh : ∀ k ∈ s'.sessionProtoHandles, k ∈ s.sessionProtoHandles) :
    Inv s' log := by
  simpa using @StepInvariant.quiet cfg Inv hI s s' log [] hs hc hh (by simp)

theorem preserves_quiet {op : Op} (hq : Quiet op) : Preserves Inv op :=
  fun s _ h => hI.quiet h (hq.contexts s) (hq.handles s) (hq.effects s)

theorem preserves_shutdown (o : SendOracle) (quick : Bool) :
    Preserves Inv (handleShutdown o quick) :=
  (hI.preserves_quiet (quiet_shutdownDrain quick)).seq fun t =>
    (Preserves.forEach (f := fun i => sessionClose o i (if quick then .internal else .external))
      (fun i (_ : i ∈ t.sessions.keys) => by
      cases quick with
      | true => exact fun _ _ h => hI.close o i h
      | false => exact hI.preserves_quiet (quiet_sessionClose_external o i))) t

theorem preserves_serviceTask (o : SendOracle) (p : Priority) (t : ServiceTask) :
    Preserves Inv (handleServiceTask cfg o p t) := by
  by_cases ht : t = .shutdown true
  · subst ht; exact hI.preserves_shutdown o true
  · exact hI.preserves_quiet (quiet_handleServiceTask cfg o p ht)

theorem preserves_sessionOpen {h : Handle} {key : Option PublicKey} {a : Multiaddr}
    {ty : SessionType} {l : Option Multiaddr} {s s' : Service} {log out : List Effect}
    (ho : sessionOpen cfg h key a ty l s = some (s', out)) (hs : Inv s log) : Inv s' (log ++ out) := by
  rcases sessionOpen_cases ho with ⟨hc, hh, he⟩ | ⟨ctx, hctx⟩
  · exact hI.quiet hs hc (fun k hk => hh ▸ hk) he
  · exact hI.opened hs hctx

theorem preserves_sessionEvent (o : SendOracle) (e : SessionEvent) {s s' : Service}
    {log out : List Effect} (he : handleSessionEvent cfg o e s = some (s', out)) (hs : Inv s log) :
    Inv s' (log ++ out) := by
  cases ht : e.touchesSessions with
  | false =>
    obtain ⟨op, hq, hop⟩ := handleSessionEvent_quiet cfg o ht
    rw [hop, Option.some.injEq] at he
    have := hI.preserves_quiet hq s log hs
    rwa [he] at this
  | true =>
    cases e with
    | sessionClose id =>
      rw [handleSessionEvent, Option.some.injEq] at he
      have := hI.close o id hs
      rwa [he] at this
    | handshakeSuccess handle key address ty l =>
      -- pending を減らすだけの書き換えは表に触れない
      obtain ⟨s₁, rfl, ⟨rfl, rfl⟩ | ⟨-, ho⟩⟩ := handleHandshakeSuccess_cases he
      · rw [List.append_nil]; exact hI.update _ hs rfl fun _ h => h
      · exact hI.preserves_sessionOpen ho (hI.update _ hs rfl fun _ h => h)
    | _ => cases ht

theorem preserves_sessionPoll (o : SendOracle) (ev : Option SessionEvent) {s s' : Service}
    {log out : List Effect} {p : Bool} (hp : sessionPoll cfg o ev s = some (s', out, p))
    (hs : Inv s log) : Inv s' (log ++ out) := by
  rcases sessionPoll_cases hp with ⟨rfl, rfl⟩ | ⟨e, -, he⟩
  · simpa using hs
  · exact hI.preserves_sessionEvent o e he hs

theorem preserves_userTaskPoll (o : SendOracle) (task : Option (Priority × ServiceTask))
    {s : Service} {log : List Effect} (hs : Inv s log) :
    Inv (userTaskPoll cfg o task s).1 (log ++ (userTaskPoll cfg o task s).2.1) := by
  rcases userTaskPoll_cases cfg o task s with ⟨h₁, h₂⟩ | ⟨p, t, -, h₁, h₂⟩ <;> rw [h₁, h₂]
  · simpa using hs
  · exact hI.preserves_serviceTask o p t s log hs

/-- 共有の shutdown flag を立てても条件は保たれる。 -/
theorem preserves_setShutdown {s : Service} {log : List Effect} (hs : Inv s log) :
    Inv { s with shutdown := true } log :=
  hI.update _ hs rfl fun _ h => h

theorem preserves_pollNext (r : RoundInput) {s : Service} {log : List Effect} {res : RoundResult}
    (hp : pollNext cfg r s = some res) (hs : Inv s log) : Inv res.service (log ++ res.out) := by
  unfold pollNext at hp
  split at hp
  · cases hp; simpa using hI.preserves_setShutdown hs
  · simp only [pollBody, Option.map_map, Option.map_eq_some'] at hp
    obtain ⟨b, hb, hres⟩ := hp
    have h₀ : Inv (if s.futureTaskManager then initProtoHandles cfg { s with futureTaskManager := false }
        else s) log :=
      hI.update _ hs (by split <;> rfl) (by split <;> exact fun _ h => h)
    have h₁ := (hI.preserves_quiet ((quiet_flushBuffer r.oracle).seq
      (quiet_tryUpdateListens r.oracle))) _ _ h₀
    have h₂ := hI.preserves_sessionPoll r.oracle r.event hb h₁
    have h₃ := hI.preserves_userTaskPoll r.oracle r.task h₂
    have h₄ := hI.preserves_quiet (quiet_sendPendingTask r.oracle) _ _ h₃
    simp only [Function.comp_apply] at hres
    split at hres <;> (subst hres; simp only [List.append_assoc] at h₄ ⊢)
    · exact hI.preserves_setShutdown h₄
    · exact h₄

theorem preserves_step (i : Input) {s s' : Service} {log out : List Effect}
    (hst : step cfg i s = some (s', out)) (hs : Inv s log) : Inv s' (log ++ out) := by
  cases i with
  | round r =>
    simp only [step, Option.map_eq_some'] at hst
    obtain ⟨res, hres, he⟩ := hst
    cases he
    exact hI.preserves_pollNext r hres hs
  | listen address result =>
    cases hst
    exact hI.preserves_quiet (quiet_listen cfg address result) s log hs
  | dial address target result =>
    cases hst
    exact hI.preserves_quiet (quiet_dial cfg address target result) s log hs

/-- 初めに成り立ち、`StepInvariant` なら、run のどの時点でも成り立つ。 -/
theorem reachable {forever : Bool} (h₀ : Inv (Service.new forever) []) {s : Service}
    {log : List Effect} (h : Reachable cfg forever s log) : Inv s log := by
  induction h with
  | init => exact h₀
  | step i _ hst ih => exact hI.preserves_step i hst ih

end StepInvariant

end Tentacle
