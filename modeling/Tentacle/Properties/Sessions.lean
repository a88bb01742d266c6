import Tentacle.Properties.Step
import Tentacle.World

/-!
# session の表の不変条件

* `remotePubkey_unique` — 生きている二つの session が同じ公開鍵を持つことは無い。
  `session_open` は挿入の前に生きている session 全部を公開鍵で探すので、挿入で保たれ、
  外す操作では明らかに保たれる。
* `sessionProtoHandles_live` — session の handler の buffer の key `(id, proto_id)` は、
  生きている session と登録された protocol の組である。だから新しい id にはまだ buffer が無く、
  `session_open` が新しい `Session` に渡す sender は、`session_handles_open` がその場で
  作った空の buffer にちょうど一致する。前に同じ id を使った session の buffer は残らない。
* `sessions_exceed_maxConnectionNumber` — 接続の上限は、挿入の前の `sessions` の数と pending の
  数の和を `max_connection_number` と `<` で比べる。だから挿入の後は、和が上限より一つ多くまで
  なり（`sessions_add_pending_le_of_admitted`）、上限 1 の service が session を二つ持つ
-/

namespace Tentacle

/-! ## 公開鍵 -/

/-- 生きている二つの session が同じ公開鍵を持てば、同じ id の下にある。 -/
def UniqueKeys (s : Service) : Prop :=
  ∀ i j ci cj k, s.contexts i = some ci → s.contexts j = some cj →
    ci.remotePubkey = some k → cj.remotePubkey = some k → i = j

theorem uniqueKeys_stepInvariant (cfg : Config) : StepInvariant cfg fun s _ => UniqueKeys s where
  quiet h hc _ _ i j ci cj k hi hj := by
    rw [hc] at hi hj
    exact h i j ci cj k hi hj
  close o id s log h i j ci cj k hi hj := by
    rw [sessionClose_internal_contexts] at hi hj
    split at hi
    · cases hi
    split at hj
    · cases hj
    exact h i j ci cj k hi hj
  opened {s s' log out key ctx} h ho i j ci cj k hi hj hki hkj := by
    -- 開いたばかりの session と前からの session は、公開鍵を共有しない
    have fresh_key : ∀ l c, s.contexts l = some c → ctx.remotePubkey = some k →
        c.remotePubkey = some k → False :=
      fun l c hl hctx hc => ho.unique k (ho.pubkey ▸ hctx) l c hl hc
    rw [ho.contexts] at hi hj
    split at hi <;> split at hj
    · subst_vars; rfl
    · cases hi; exact (fresh_key j cj hj hki hkj).elim
    · cases hj; exact (fresh_key i ci hi hkj hki).elim
    · exact h i j ci cj k hi hj hki hkj

/-- どの run でも、生きている二つの session が同じ公開鍵 `Some k` を持つことは無い。
同じ peer の `HandshakeSuccess` がどの順、どの向きで来ても、閉じた id が使い回されても。 -/
theorem remotePubkey_unique {cfg : Config} {forever : Bool} {s : Service} {log : List Effect}
    (h : Reachable cfg forever s log) {i j : SessionId} {ci cj : SessionController}
    {k : PublicKey} (hi : s.sessions.lookup i = some ci) (hj : s.sessions.lookup j = some cj)
    (hki : ci.inner.remotePubkey = some k) (hkj : cj.inner.remotePubkey = some k) : i = j :=
  (uniqueKeys_stepInvariant cfg).reachable (fun _ _ _ _ _ h => by simp at h) h i j ci.inner
    cj.inner k (by simp [Service.contexts, hi]) (by simp [Service.contexts, hj]) hki hkj

/-- 例の run の session は公開鍵 `[2]` を持つ。 -/
theorem remotePubkey_unique_demo :
    ∃ c, demoWorld.service.sessions.lookup 1 = some c ∧ c.inner.remotePubkey = some ⟨[2]⟩ ∧
      (1 : SessionId) = 1 := by
  obtain ⟨c, h1, hk⟩ := Option.exists_of_any (show (demoWorld.service.sessions.lookup 1).any
    (fun c => decide (c.inner.remotePubkey = some ⟨[2]⟩)) = true by decide)
  replace hk := of_decide_eq_true hk
  exact ⟨c, h1, hk, remotePubkey_unique demoWorld_reachable.reachable h1 h1 hk hk⟩

/-! ## handler の buffer -/

/-- session の handler の buffer の key は、生きている session と登録された protocol の組。 -/
def HandlesLive (cfg : Config) (s : Service) : Prop :=
  ∀ k ∈ s.sessionProtoHandles, (s.contexts k.1).isSome ∧ k.2 ∈ cfg.protocolConfigs

theorem mem_sessionHandleProtocols {cfg : Config} {p : ProtocolId}
    (h : p ∈ sessionHandleProtocols cfg) : p ∈ cfg.protocolConfigs := by
  simp only [sessionHandleProtocols, List.mem_map, List.mem_filter] at h
  obtain ⟨e, ⟨he, -⟩, rfl⟩ := h
  exact AList.mem_keys.mp (List.mem_map_of_mem Sigma.fst he)

theorem handlesLive_stepInvariant (cfg : Config) :
    StepInvariant cfg fun s _ => HandlesLive cfg s where
  quiet h hc hh _ k hk := hc ▸ h k (hh k hk)
  close o id s log h k hk := by
    obtain ⟨hne, hk⟩ := (mem_sessionClose_internal_handles o id s).mp hk
    rw [sessionClose_internal_contexts, if_neg hne]
    exact h k hk
  opened {s s' log out key ctx} h ho k hk := by
    rw [ho.contexts]
    rcases (ho.handles k).mp hk with hk | ⟨hid, hp⟩
    · split
      · exact ⟨rfl, (h k hk).2⟩
      · exact h k hk
    · exact ⟨by simp [hid], mem_sessionHandleProtocols hp⟩

/-- `sessions` にある id には buffer が無いとき、`session_open` の挿入の段が新しい
`Session` に渡す sender は、handler を持つ protocol ごとの空の buffer である。 -/
theorem sessionOpenInsert_senders {cfg : Config} {hd : Handle} {key : Option PublicKey}
    {a : Multiaddr} {ty : SessionType} {target : TargetProtocol} {s s' : Service}
    {out : List Effect} (hl : ∀ k ∈ s.sessionProtoHandles, k.1 ∈ s.sessions)
    (hi : sessionOpenInsert cfg hd key a ty target s = some (s', out))
    {id : SessionId} {hd' : Handle} {senders : List (ProtocolId × List SessionProtocolEvent)}
    {opened : List String} (hm : Effect.spawn (.session id hd' senders opened) ∈ out) :
    senders.Perm ((sessionHandleProtocols cfg).map fun p => (p, [])) := by
  simp only [sessionOpenInsert, Option.map_eq_some', Prod.mk.injEq] at hi
  obtain ⟨s₁, hg, rfl, rfl⟩ := hi
  obtain ⟨hs₁, hfree⟩ := generateNextSession_spec hg
  have hm₁ : s₁.sessionProtoHandles = s.sessionProtoHandles := by rw [hs₁]
  simp only [List.mem_cons, Effect.spawn.injEq, FutureTask.session.injEq, reduceCtorEq,
    List.not_mem_nil, or_false] at hm
  obtain ⟨-, -, rfl, -⟩ := hm
  set n := s₁.nextSession
  have hmem : n ∈ s₁.sessions.insert n ⟨⟨n, a, ty, key⟩, Buffer.new⟩ :=
    AList.mem_insert _ |>.mpr (.inl rfl)
  simp only [sessionHandlesOpen, hmem, ↓reduceIte]
  set m' := (sessionHandleProtocols cfg).foldl (fun m p => m.insert (n, p) Buffer.new)
    s₁.sessionProtoHandles
  -- 新しい id の buffer は、いま作ったものだけ
  have hlookup : ∀ p, m'.lookup (n, p) =
      if p ∈ sessionHandleProtocols cfg then some Buffer.new else none := by
    intro p
    rw [lookup_foldl_insert]
    have : (n, p) ∉ s₁.sessionProtoHandles := fun h => hfree (hl _ (hm₁ ▸ h))
    simp [AList.lookup_eq_none.mpr this]
  have hnodup : (sessionHandleProtocols cfg).Nodup :=
    (cfg.protocolConfigs.nodupKeys.sublist (List.filter_sublist _) : List.NodupKeys _)
  refine (List.perm_ext_iff_of_nodup ?_ (hnodup.map fun _ _ h => by simpa using h)).mpr ?_
  · refine List.Nodup.map_on ?_ (m'.nodupKeys.nodup.filter _)
    rintro ⟨⟨i, p⟩, b⟩ hx ⟨⟨j, q⟩, c⟩ hy hxy
    simp only [List.mem_filter, beq_iff_eq] at hx hy hxy
    simp only [Prod.mk.injEq] at hxy
    obtain ⟨rfl, -⟩ := hxy
    exact m'.nodupKeys.eq_of_fst_eq hx.1 hy.1 (by simp [hx.2, hy.2])
  · rintro ⟨p, b⟩
    simp only [List.mem_map, List.mem_filter, beq_iff_eq, Prod.mk.injEq]
    constructor
    · rintro ⟨⟨⟨i, q⟩, c⟩, ⟨hc, rfl⟩, rfl, rfl⟩
      have := hlookup q
      rw [AList.mem_lookup_iff.mpr hc] at this
      split at this
      · cases this; exact ⟨q, by assumption, rfl, rfl⟩
      · cases this
    · rintro ⟨q, hq, rfl, rfl⟩
      have := hlookup q
      rw [if_pos hq] at this
      exact ⟨⟨(n, q), Buffer.new⟩, ⟨AList.mem_lookup_iff.mp this, rfl⟩, rfl, rfl⟩

/-- 同じく `session_open` 全体について。検査で断るときは session を spawn しない。 -/
theorem sessionOpen_senders {cfg : Config} {hd : Handle} {key : Option PublicKey}
    {a : Multiaddr} {ty : SessionType} {l : Option Multiaddr} {s s' : Service}
    {out : List Effect} (hl : ∀ k ∈ s.sessionProtoHandles, k.1 ∈ s.sessions)
    (ho : sessionOpen cfg hd key a ty l s = some (s', out))
    {id : SessionId} {hd' : Handle} {senders : List (ProtocolId × List SessionProtocolEvent)}
    {opened : List String} (hm : Effect.spawn (.session id hd' senders opened) ∈ out) :
    senders.Perm ((sessionHandleProtocols cfg).map fun p => (p, [])) := by
  obtain ⟨s₀, rfl, ⟨hc, rfl⟩ | ⟨a', -, ho⟩⟩ := sessionOpen_stages ho
  · rcases sessionOpenCheck_error hc _ hm with h | ⟨_, h⟩ <;> cases h
  · refine sessionOpenInsert_senders ?_ ho hm
    exact hl

/-- どの run でも、session の handler の buffer の key `(s, p)` は、`s` が `sessions` の key で
`p` が `protocol_configs` の key である。だから `session_open` が新しい `Session` に渡す
sender は、handler を持つ protocol ごとにその場で作った空の buffer にちょうど一致し、
前に同じ id を使った session の buffer は混ざらない。 -/
theorem sessionProtoHandles_live {cfg : Config} {forever : Bool} {s : Service}
    {log : List Effect} (h : Reachable cfg forever s log) :
    (∀ k ∈ s.sessionProtoHandles, k.1 ∈ s.sessions ∧ k.2 ∈ cfg.protocolConfigs) ∧
    ∀ {hd : Handle} {key : Option PublicKey} {a : Multiaddr} {ty : SessionType}
      {l : Option Multiaddr} {s' : Service} {out : List Effect},
      sessionOpen cfg hd key a ty l s = some (s', out) →
      ∀ id hd' senders opened, Effect.spawn (.session id hd' senders opened) ∈ out →
        senders.Perm ((sessionHandleProtocols cfg).map fun p => (p, [])) := by
  have hl : HandlesLive cfg s :=
    (handlesLive_stepInvariant cfg).reachable (fun _ h => by simp [Service.new] at h) h
  have hlive : ∀ k ∈ s.sessionProtoHandles, k.1 ∈ s.sessions ∧ k.2 ∈ cfg.protocolConfigs :=
    fun k hk => ⟨isSome_contexts.mp (hl k hk).1, (hl k hk).2⟩
  exact ⟨hlive, fun ho _ _ _ _ hm => sessionOpen_senders (fun k hk => (hlive k hk).1) ho hm⟩

/-- 例の run の session は `ping` の buffer を持つ。 -/
theorem sessionProtoHandles_live_demo :
    (demoWorld.service.sessionProtoHandles.lookup (1, 1)).isSome = true ∧
    ((∀ k ∈ demoWorld.service.sessionProtoHandles,
        k.1 ∈ demoWorld.service.sessions ∧ k.2 ∈ demoConfig.protocolConfigs) ∧
      ∀ {hd : Handle} {key : Option PublicKey} {a : Multiaddr} {ty : SessionType}
        {l : Option Multiaddr} {s' : Service} {out : List Effect},
        sessionOpen demoConfig hd key a ty l demoWorld.service = some (s', out) →
        ∀ id hd' senders opened, Effect.spawn (.session id hd' senders opened) ∈ out →
          senders.Perm ((sessionHandleProtocols demoConfig).map fun p => (p, []))) :=
  ⟨by decide, sessionProtoHandles_live demoWorld_reachable.reachable⟩

/-! ## 接続の上限 -/

/-- `HandshakeSuccess` の処理が session を開くのは、上限の判定で数えた和が上限以下のとき
（足し算が溢れたときを除く）。そのため挿入の後、`sessions` の数と判定に足す pending の数の
和は、上限より一つ多くまでなる。 -/
theorem sessions_add_pending_le_of_admitted {cfg : Config} {hd : Handle}
    {key : Option PublicKey} {a : Multiaddr} {ty : SessionType} {l : Option Multiaddr}
    {s s' : Service} {out : List Effect}
    (h : handleHandshakeSuccess cfg hd key a ty l s = some (s', out)) {id : SessionId}
    {hd' : Handle} {senders : List (ProtocolId × List SessionProtocolEvent)}
    {opened : List String} (hm : Effect.spawn (.session id hd' senders opened) ∈ out)
    (hno : s.sessions.len + s.state.pending < 2 ^ 64) :
    s'.sessions.len + s'.state.intoInner.getD 0 ≤ cfg.maxConnectionNumber + 1 := by
  obtain ⟨s₁, hs₁, ⟨-, rfl⟩ | ⟨hr, ho⟩⟩ := handleHandshakeSuccess_cases h
  · cases hm
  · obtain ⟨-, hst, hl, -⟩ := sessionOpen_spawn ho hm
    -- 判定に足す pending は、減らす前の pending を超えない
    have hp : s₁.state.intoInner.getD 0 ≤ s.state.pending := by
      refine (State.intoInner_getD_le _).trans ?_
      rw [hs₁]; split <;> simp
    have hlen : s₁.sessions.len = s.sessions.len := by rw [hs₁]
    have hlt : s₁.sessions.len + s₁.state.intoInner.getD 0 < 2 ^ 64 := by omega
    simp only [reachedMaxConnectionLimit, checkedAdd, hlt, ↓reduceIte, decide_eq_false_iff_not,
      not_lt] at hr
    rw [hl, hst]
    omega

/-- 上限 1 の service が listen し、公開鍵の違う二つの inbound 接続を順に受ける。 -/
def twoInboundTrace : List WorldInput :=
  demoTrace ++
    [.background 0 (.connect [.ip4 3, .tcp 5000] 8),
     .round (some (2, .authenticate (some ⟨[3]⟩))) none .ok]

/-- 上限の判定は挿入の前の数を `<` で比べるので、どの `HandshakeSuccess` の処理でも、session を
開いた後の `sessions` の数と判定に足す pending の数の和は上限より一つ多くまでしか抑えられず
（足し算が溢れないとき）、上限 1 の service が session を二つ持つ run がある。一つ目の session の
後、判定の和は 1 で、`1 < 1` ではないので二つ目も開く。 -/
theorem sessions_exceed_maxConnectionNumber :
    (∀ (cfg : Config) hd key a ty l (s s' : Service) out id hd' senders opened,
      handleHandshakeSuccess cfg hd key a ty l s = some (s', out) →
      Effect.spawn (.session id hd' senders opened) ∈ out →
      s.sessions.len + s.state.pending < 2 ^ 64 →
      s'.sessions.len + s'.state.intoInner.getD 0 ≤ cfg.maxConnectionNumber + 1) ∧
    ∃ s log, Reachable demoConfig false s log ∧
      demoConfig.maxConnectionNumber < s.sessions.len := by
  refine ⟨fun _ _ _ _ _ _ _ _ _ _ _ _ _ h hm hno => sessions_add_pending_le_of_admitted h hm hno, ?_⟩
  obtain ⟨w, hw, hp⟩ := WorldReachable.exists_of_run demoConfig false twoInboundTrace
    (fun w => decide (demoConfig.maxConnectionNumber < w.service.sessions.len)) (by decide)
  exact ⟨w.service, w.log, hw.reachable, by simpa using hp⟩

end Tentacle
