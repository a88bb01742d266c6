import Tentacle.Properties.Allocation
import Tentacle.Properties.Step
import Tentacle.World

/-!
# session の address と公開鍵の peer id

`session_open` は公開鍵 `k` の接続について、address の peer id の component を調べる。
`k` の peer id と違えば `PeerIdNotMatch` で断り、component が無ければ `k` の peer id を
足してから記録する（`sessionOpenCheck_peerIdBound`）。

* `peerIdsRecoverable_stepInvariant` — そのため、どの run でも、公開鍵を持つ生きている session の
  address からは、`extract_peer_id` でちょうどその鍵の peer id が読める
* `sessionOpen_peerIdNotMatch` と `sessionOpen_appends_peerId` — 重複の検査を抜けた
  `session_open` の、二つの分岐
* `sessionOpen_repeatedConnection` — 同じ鍵の session が生きていれば、重複の検査が address を
  見る前に断る

どれも `PeerId::from_bytes` が peer id の bytes を読み戻すこと（`PeerIdRoundTrip`）だけを
library について仮定する。`sessionAddress_peerId` は四つを合わせたもので、
`sessionOpen_repeated_before_peerIdNotMatch` は、`k` と違う peer を名指す address でも、
同じ鍵の session が生きていれば `PeerIdNotMatch` ではなく `RepeatedConnection` が返る run である。
-/

namespace Tentacle

/-- `PeerId::from_bytes` は、公開鍵から導いた peer id の bytes を読み戻す。実際の `PeerId` では
その bytes は正しい multihash なので、いつも成り立つ。 -/
def PeerIdRoundTrip (cfg : Config) : Prop :=
  ∀ k, cfg.peerIdFromBytes (cfg.peerIdOf k).bytes = some (cfg.peerIdOf k)

/-! ## extract_peer_id -/

/-- peer id として読める component の無い address に `p2p` component を一つ足すと、
`extract_peer_id` はそれを読む。 -/
theorem extractPeerId_append_p2p (cfg : Config) (b : Bytes) :
    ∀ (a : Multiaddr), extractPeerId cfg a = none →
      extractPeerId cfg (a ++ [.p2p b]) = cfg.peerIdFromBytes b
  | [], _ => by
    simp only [List.nil_append, extractPeerId]
    split <;> simp [*]
  | .p2p bytes :: rest, h => by
    simp only [extractPeerId] at h
    split at h
    · cases h
    · rename_i hb
      simp only [List.cons_append, extractPeerId, hb]
      exact extractPeerId_append_p2p cfg b rest h
  | .ip4 _ :: rest, h | .tcp _ :: rest, h | .dns4 _ :: rest, h | .ws :: rest, h =>
    extractPeerId_append_p2p cfg b rest h

theorem PeerIdBound.extract {cfg : Config} {k : PublicKey} {a : Multiaddr}
    (hrt : PeerIdRoundTrip cfg) (h : PeerIdBound cfg k a) :
    extractPeerId cfg a = some (cfg.peerIdOf k) := by
  rcases h with h | ⟨a₀, h₀, rfl⟩
  · exact h
  · rw [extractPeerId_append_p2p cfg _ a₀ h₀, hrt]

/-! ## run 全体 -/

/-- 公開鍵 `k` を持つ生きている session は、記録した address から `k` の peer id が読める。 -/
def PeerIdsRecoverable (cfg : Config) (s : Service) : Prop :=
  ∀ id c k, s.contexts id = some c → c.remotePubkey = some k →
    extractPeerId cfg c.address = some (cfg.peerIdOf k)

theorem peerIdsRecoverable_stepInvariant {cfg : Config} (hrt : PeerIdRoundTrip cfg) :
    StepInvariant cfg fun s _ => PeerIdsRecoverable cfg s where
  quiet h hc _ _ id c k hi hk := h id c k (hc ▸ hi) hk
  close o id s log h j c k hj hk := by
    rw [sessionClose_internal_contexts] at hj
    split at hj
    · cases hj
    · exact h j c k hj hk
  opened {s s' log out key ctx} h ho j c k hj hk := by
    rw [ho.contexts] at hj
    split at hj
    · cases hj
      exact (ho.peerId k (ho.pubkey.symm.trans hk)).extract hrt
    · exact h j c k hj hk

/-! ## session_open の二つの分岐 -/

/-- どの生きている session も公開鍵 `k` を持たなければ、重複の検査は何も見つけない。 -/
theorem find_remotePubkey_eq_none {s : Service} {k : PublicKey}
    (hu : ∀ j c, s.contexts j = some c → c.remotePubkey ≠ some k) :
    s.sessions.values.find? (fun c => c.inner.remotePubkey == some k) = none := by
  refine List.find?_eq_none.mpr fun c hc => ?_
  obtain ⟨j, hj⟩ := mem_values.mp hc
  simpa using hu j c.inner (by simp [Service.contexts, hj])

section Open

variable {cfg : Config} {s : Service} {h : Handle} {k : PublicKey} {a : Multiaddr}
  {ty : SessionType} {l : Option Multiaddr}

/-- 重複の検査を抜け、address の peer id が `k` のものでなければ、`PeerIdNotMatch` を報告して
断る。session は開かず、dial の記録を消すだけである。 -/
theorem sessionOpen_peerIdNotMatch {p : PeerId}
    (hu : ∀ j c, s.contexts j = some c → c.remotePubkey ≠ some k)
    (hp : extractPeerId cfg a = some p) (hne : p ≠ cfg.peerIdOf k) :
    sessionOpen cfg h (some k) a ty l s =
      some ({ s with dialProtocols := s.dialProtocols.erase a },
        [.error (.dialerError a .peerIdNotMatch)]) := by
  have hf := find_remotePubkey_eq_none
    (s := { s with dialProtocols := s.dialProtocols.erase a }) hu
  simp [sessionOpen, sessionOpenCheck, hf, hp, Ne.symm hne]

/-- 重複の検査を抜け、address に peer id の component が無ければ、`k` の peer id の `p2p`
component を足した address で session を開く（空いた id があるとき）。 -/
theorem sessionOpen_appends_peerId
    (hu : ∀ j c, s.contexts j = some c → c.remotePubkey ≠ some k)
    (hn : extractPeerId cfg a = none) (hlen : s.sessions.len < 2 ^ 32) :
    ∃ s' ctx t, sessionOpen cfg h (some k) a ty l s =
        some (s', [.spawn t, .event (.sessionOpen ctx)]) ∧
      ctx.address = a ++ [.p2p (cfg.peerIdOf k).bytes] ∧ ctx.remotePubkey = some k ∧
      s'.contexts ctx.id = some ctx := by
  have hf := find_remotePubkey_eq_none
    (s := { s with dialProtocols := s.dialProtocols.erase a }) hu
  obtain ⟨j, hj, hs, hfree⟩ := exists_first_free s.sessions s.nextSession hlen
  have hg := nextFreeSession_of_first_free j (2 ^ 32) _ (by omega) hs hfree
  simp only [sessionOpen, sessionOpenCheck, hf, hn, Option.some_bind, sessionOpenInsert,
    generateNextSession, hg, Option.map_some']
  exact ⟨_, _, _, rfl, rfl, rfl, by simp [Service.contexts, sessionHandlesOpen_sessions]⟩

/-- 公開鍵 `k` を持つ生きている session があれば、`session_open` は address によらず、peer id を
調べる前に `RepeatedConnection` で断る。接続を `poll_shutdown` し、`k` を持つ生きている session の
id を、outbound なら dial の、inbound なら listen address の error として報告する（inbound で
listen address が無ければ `expect` が panic する）。session は開かず、dial の記録を消すだけである。 -/
theorem sessionOpen_repeatedConnection {j : SessionId} {c : SessionContext}
    (hj : s.contexts j = some c) (hk : c.remotePubkey = some k) :
    ∃ c', (∃ j', s.contexts j' = some c') ∧ c'.remotePubkey = some k ∧
      sessionOpen cfg h (some k) a ty l s =
        (if ty.isOutbound then some (ServiceError.dialerError a (.repeatedConnection c'.id))
          else l.map fun la => .listenError la (.repeatedConnection c'.id)).map fun err =>
          ({ s with dialProtocols := s.dialProtocols.erase a }, [.shutdownHandle h, .error err]) := by
  obtain ⟨cc, hcc, rfl⟩ := Option.map_eq_some'.mp hj
  obtain ⟨c₀, hc₀⟩ : ∃ c₀, s.sessions.values.find? (fun c => c.inner.remotePubkey == some k) =
      some c₀ := Option.isSome_iff_exists.mp
    (List.find?_isSome.mpr ⟨cc, mem_values.mpr ⟨j, hcc⟩, by simpa using hk⟩)
  obtain ⟨j₀, hj₀⟩ := mem_values.mp (List.mem_of_find?_eq_some hc₀)
  refine ⟨c₀.inner, ⟨j₀, by simp [Service.contexts, hj₀]⟩, by simpa using List.find?_some hc₀, ?_⟩
  simp only [sessionOpen, sessionOpenCheck]
  rw [show ({ s with dialProtocols := s.dialProtocols.erase a } : Service).sessions = s.sessions
    from rfl, hc₀]
  cases ty.isOutbound <;> cases l <;> rfl

end Open

/-! ## 三つを合わせて -/

/-- `PeerId::from_bytes` が peer id の bytes を読み戻せば、どの run のどの時点でも、公開鍵を
持つ生きている session の address からは、ちょうどその鍵の peer id が読める。`session_open` は、
公開鍵 `k` を持つ生きている session が無いとき、`k` と違う peer を名指す address を
`PeerIdNotMatch` で断り、peer id の component の無い address には `k` の peer id の `p2p`
component を足してから session を開く（空いた id があるとき。無ければ loop が終わらない）。
`k` を持つ生きている session があるときは、address によらず先に `RepeatedConnection` で断る。 -/
theorem sessionAddress_peerId (cfg : Config) (hrt : PeerIdRoundTrip cfg) :
    (∀ forever s log, Reachable cfg forever s log → PeerIdsRecoverable cfg s) ∧
    (∀ (s : Service) h k a ty l (p : PeerId),
      (∀ j c, s.contexts j = some c → c.remotePubkey ≠ some k) →
      extractPeerId cfg a = some p → p ≠ cfg.peerIdOf k →
      sessionOpen cfg h (some k) a ty l s =
        some ({ s with dialProtocols := s.dialProtocols.erase a },
          [.error (.dialerError a .peerIdNotMatch)])) ∧
    (∀ (s : Service) h k a ty l, (∀ j c, s.contexts j = some c → c.remotePubkey ≠ some k) →
      extractPeerId cfg a = none → s.sessions.len < 2 ^ 32 →
      ∃ s' ctx t, sessionOpen cfg h (some k) a ty l s =
          some (s', [.spawn t, .event (.sessionOpen ctx)]) ∧
        ctx.address = a ++ [.p2p (cfg.peerIdOf k).bytes] ∧ ctx.remotePubkey = some k ∧
        s'.contexts ctx.id = some ctx) ∧
    (∀ (s : Service) h k a ty l j (c : SessionContext), s.contexts j = some c →
      c.remotePubkey = some k →
      ∃ c', (∃ j', s.contexts j' = some c') ∧ c'.remotePubkey = some k ∧
        sessionOpen cfg h (some k) a ty l s =
          (if ty.isOutbound then some (ServiceError.dialerError a (.repeatedConnection c'.id))
            else l.map fun la => .listenError la (.repeatedConnection c'.id)).map fun err =>
            ({ s with dialProtocols := s.dialProtocols.erase a }, [.shutdownHandle h, .error err])) :=
  ⟨fun _ _ _ hr => (peerIdsRecoverable_stepInvariant hrt).reachable
      (fun id _ _ h _ => Option.noConfusion ((contexts_new _ id).symm.trans h)) hr,
    fun _ _ _ _ _ _ _ hu hp hne => sessionOpen_peerIdNotMatch hu hp hne,
    fun _ _ _ _ _ _ hu hn hlen => sessionOpen_appends_peerId hu hn hlen,
    fun _ _ _ _ _ _ _ _ => sessionOpen_repeatedConnection⟩

/-- 例の設定で：例の run の session の address から公開鍵 `[2]` の peer id が読め、空の service は
peer id `[9]` を名指す address を公開鍵 `[3]` の接続について断り、peer id の無い address には
`[3]` を足す。例の run の後の service は、`[2]` の鍵の outbound 接続を、peer id `[9]` を名指す
address でも `RepeatedConnection` で断る。 -/
theorem sessionAddress_peerId_demo :
    PeerIdRoundTrip demoConfig ∧ PeerIdsRecoverable demoConfig demoWorld.service ∧
      sessionOpen demoConfig 9 (some ⟨[3]⟩) [.ip4 3, .tcp 80, .p2p [9]] .outbound none
          (Service.new false) =
        some ({ Service.new false with
            dialProtocols := (Service.new false).dialProtocols.erase [.ip4 3, .tcp 80, .p2p [9]] },
          [.error (.dialerError [.ip4 3, .tcp 80, .p2p [9]] .peerIdNotMatch)]) ∧
      (∃ s' ctx t, sessionOpen demoConfig 9 (some ⟨[3]⟩) [.ip4 3, .tcp 80] .outbound none
          (Service.new false) = some (s', [.spawn t, .event (.sessionOpen ctx)]) ∧
        ctx.address = [.ip4 3, .tcp 80] ++ [.p2p (demoConfig.peerIdOf ⟨[3]⟩).bytes] ∧
        ctx.remotePubkey = some ⟨[3]⟩ ∧ s'.contexts ctx.id = some ctx) ∧
      ∃ c', (∃ j', demoWorld.service.contexts j' = some c') ∧ c'.remotePubkey = some ⟨[2]⟩ ∧
        sessionOpen demoConfig 9 (some ⟨[2]⟩) [.ip4 3, .tcp 80, .p2p [9]] .outbound none
            demoWorld.service =
          some ({ demoWorld.service with
              dialProtocols := demoWorld.service.dialProtocols.erase [.ip4 3, .tcp 80, .p2p [9]] },
            [.shutdownHandle 9,
              .error (.dialerError [.ip4 3, .tcp 80, .p2p [9]] (.repeatedConnection c'.id))]) := by
  have hrt : PeerIdRoundTrip demoConfig := fun _ => rfl
  have hu : ∀ j c, (Service.new false).contexts j = some c → c.remotePubkey ≠ some ⟨[3]⟩ :=
    fun j _ h => Option.noConfusion ((contexts_new false j).symm.trans h)
  have hc : demoWorld.service.contexts 1 =
      some ⟨1, [.ip4 2, .tcp 5000, .p2p [2]], .inbound, some ⟨[2]⟩⟩ := by decide
  obtain ⟨hr, hm, ha, hrep⟩ := sessionAddress_peerId demoConfig hrt
  exact ⟨hrt, hr false _ _ demoWorld_reachable.reachable,
    hm _ _ _ _ _ _ ⟨[9]⟩ hu rfl (by decide), ha _ _ _ _ _ _ hu rfl (by decide),
    hrep _ _ _ _ .outbound none _ _ hc rfl⟩

/-- 例の run の後、公開鍵 `[2]` の session が生きているところに、同じ鍵の peer が peer id `[9]` を
名指す address で outbound に繋がる。`session_open` は `PeerIdNotMatch` ではなく
`RepeatedConnection` で断る。 -/
theorem sessionOpen_repeated_before_peerIdNotMatch :
    ∃ s log, Reachable demoConfig false s log ∧
      (s.contexts 1).map (·.remotePubkey) = some (some ⟨[2]⟩) ∧
      extractPeerId demoConfig [.ip4 3, .tcp 80, .p2p [9]] = some ⟨[9]⟩ ∧
      (⟨[9]⟩ : PeerId) ≠ demoConfig.peerIdOf ⟨[2]⟩ ∧
      (sessionOpen demoConfig 9 (some ⟨[2]⟩) [.ip4 3, .tcp 80, .p2p [9]] .outbound none s).map
          (·.2) =
        some [.shutdownHandle 9,
          .error (.dialerError [.ip4 3, .tcp 80, .p2p [9]] (.repeatedConnection 1))] :=
  ⟨demoWorld.service, demoWorld.log, demoWorld_reachable.reachable, by decide, rfl, by decide,
    by decide⟩

end Tentacle
