import Meshd.Control.Rollback

namespace Meshd.Control

open Meshd.Framework

/-- The load cannot read the policy of the network: the query fails, the reply is unusable, or the
newest entry cannot be decrypted or parsed. -/
def ACLUnread (env : LoadEnv) : Prop :=
  match env.acl with
  | .error _ => True
  | .ok reply =>
    match queryEntries reply with
    | .error _ => True
    | .ok [] => False
    | .ok (entry :: _) => entry.err.isSome = true

theorem ACLUnread.newestPolicy {env : LoadEnv} (h : ACLUnread env) : newestPolicy env = none := by
  simp only [ACLUnread, Control.newestPolicy] at *
  cases ha : env.acl with
  | error e => rfl
  | ok reply =>
    rw [ha] at h
    dsimp only at *
    cases hq : queryEntries reply with
    | error e => rfl
    | ok entries =>
      rw [hq] at h
      cases entries with
      | nil => cases h
      | cons entry rest =>
        have hne : entry.err ≠ none := Option.isSome_iff_ne_none.mp h
        dsimp only
        rw [if_neg hne]

namespace Loader

variable {s : Loader}

/-- A cached policy is the one from before the load, or the one the load has read. -/
theorem policy_invariant (env : LoadEnv) (policy : Option ACLPolicyData) :
    LoadInvariant fun s => s.cached.acl = policy ∨
      (newestPolicy env).isSome = true ∧ s.cached.acl = newestPolicy env where
  tick _ h := h
  accept _ _ h := h
  pass _ _ h := h
  countUndecryptable _ h := h
  countUnreadable _ h := h
  countDropped _ _ h := h
  addNode _ _ _ h := h
  clearMembers _ h := h
  addMember _ _ _ h := h
  clearRelays _ h := h
  addRelay _ _ h := h
  setInfo _ _ _ h _ := h
  addEndpoint _ _ _ h _ := h

theorem cached_setACL (policy : ACLPolicyData) (s : Loader) :
    (s.setACL policy).cached.acl = some policy :=
  congrArg some (Heap.alloc_cell_self _ _)

theorem triple_policy (cfg : ClientConfig) (env : LoadEnv) (policy : Option ACLPolicyData) :
    Triple (fun s => s.cached.acl = policy) (loadSteps cfg env)
      (fun _ s => s.cached.acl = policy ∨
        (newestPolicy env).isSome = true ∧ s.cached.acl = newestPolicy env)
      (fun _ _ => True) := by
  have hrule := triple_loadSteps cfg env (policy_invariant env policy).toUnclocked
    (policy_invariant env policy) (fun _ _ h => h) (fun _ h => h) (by
      intro s p hp _
      rw [cached_setACL, hp]
      exact .inr ⟨rfl, rfl⟩)
  exact hrule.imp (fun _ hs => .inl hs) (fun _ _ hs => hs) (fun _ _ _ => trivial)

/-- The filter of the response is that of the state it was built from. -/
theorem triple_packetFilter (cfg : ClientConfig) (env : LoadEnv) :
    Triple (fun _ => True) (loadSteps cfg env)
      (fun resp s => resp.packetFilter = packetFilter cfg.platform s.cached) (fun _ _ => True) := by
  apply Triple.bind .trivial
  intro _
  refine Triple.bind .trivial fun s₁ => Triple.bind .trivial fun _ => ?_
  intro s _
  cases hr : (finishLoad cfg env).run s with
  | ok resp s' =>
    obtain ⟨hresp, n, rfl⟩ := finishLoad_ok hr
    exact buildMapResponse_packetFilter hresp
  | error e s' => trivial

/-- What a load does to the cached policy. -/
theorem WellFormed.cached_load (h : s.WellFormed) (cfg : ClientConfig) (env : LoadEnv) :
    (s.load cfg env).cached.acl = s.cached.acl ∨
    failed (loadState cfg env s) = false ∧ (newestPolicy env).isSome = true ∧
      (s.load cfg env).cached.acl = newestPolicy env := by
  rw [Loader.load]
  cases hl : loadState cfg env s with
  | ok resp s' =>
    have hstart : s.start.stateSnapshot.2.cached.acl = s.cached.acl := rfl
    have hp := (triple_policy cfg env s.cached.acl).ok hstart (loadState_ok.mp hl)
    exact hp.imp_right fun hp => ⟨rfl, hp⟩
  | error e s' =>
    left
    obtain ⟨s₁, hrun, rfl⟩ := loadState_error.mp hl
    have hf := (keeps_frame cfg env s.start.stateSnapshot.2).error (Frame.refl _) hrun
    change s.client.acl.map s₁.memory.policies.cell = s.client.acl.map s.memory.policies.cell
    cases ha : s.client.acl with
    | none => rfl
    | some p => exact congrArg some (hf.policies.cell_eq p (h.acl_lt p ha))

/-- The load succeeds and reads the policy. -/
def Reads (cfg : ClientConfig) (policy : ACLPolicyData) (s : Loader) (env : LoadEnv) : Prop :=
  failed (loadState cfg env s) = false ∧ newestPolicy env = some policy

/-- A cached policy was read by a load that succeeded. -/
theorem cached_policy_read (cfg : ClientConfig) (memory : Memory) (envs : List LoadEnv)
    {policy : ACLPolicyData}
    (h : (exec (load cfg) (newDWNClient memory) envs).cached.acl = some policy) :
    ∃ j, EventAt (load cfg) (newDWNClient memory) envs j (Reads cfg policy) := by
  revert h
  refine exec_history (P := fun envs (s : Loader) => s.cached.acl = some policy →
    ∃ j, EventAt (load cfg) (newDWNClient memory) envs j (Reads cfg policy)) ?_ ?_ envs
  · intro h
    cases h
  · intro envs env ih h
    rcases (wellFormed_loads cfg memory envs).cached_load cfg env with
      hsame | ⟨hok, -, hread⟩
    · obtain ⟨j, hj⟩ := ih (hsame ▸ h)
      exact ⟨j, hj.concat⟩
    · exact ⟨envs.length, EventAt.last ⟨hok, hread ▸ h⟩⟩

/-- A load, after any others, that cannot read the policy of the network and yet succeeds. With a
cached policy its filter is that of a policy read before; without one it lets everything through. -/
theorem unreadACL_filter (cfg : ClientConfig) (memory : Memory) (envs : List LoadEnv)
    {env : LoadEnv} {resp : MapResponse} {s' : Loader} (hu : ACLUnread env)
    (hok : loadState cfg env (exec (load cfg) (newDWNClient memory) envs) = .ok resp s') :
    ((exec (load cfg) (newDWNClient memory) envs).client.acl.isSome = true →
      ∃ policy, (∃ j, EventAt (load cfg) (newDWNClient memory) envs j (Reads cfg policy)) ∧
        resp.packetFilter = buildFilterRules (some policy) (nodeAddress cfg.platform s'.cached)) ∧
    ((exec (load cfg) (newDWNClient memory) envs).client.acl = none →
      resp.packetFilter = defaultFilterRules) := by
  have hfilter := (triple_packetFilter cfg env).ok trivial (loadState_ok.mp hok)
  have hkept : s'.cached.acl = (exec (load cfg) (newDWNClient memory) envs).cached.acl := by
    have hp := (triple_policy cfg env _).ok rfl (loadState_ok.mp hok)
    rw [hu.newestPolicy] at hp
    rcases hp with hp | ⟨hp, -⟩
    · exact hp
    · cases hp
  constructor
  · intro hsome
    obtain ⟨p, hp⟩ := Option.isSome_iff_exists.mp hsome
    have hcached : (exec (load cfg) (newDWNClient memory) envs).cached.acl =
        some ((exec (load cfg) (newDWNClient memory) envs).memory.policies.cell p) :=
      congrArg (Option.map _) hp
    refine ⟨_, cached_policy_read cfg memory envs hcached, ?_⟩
    rw [hfilter, packetFilter, hkept.trans hcached]
  · intro hnone
    have hacl : s'.cached.acl = none := hkept.trans (congrArg (Option.map _) hnone)
    rw [hfilter, packetFilter, hacl]

end Loader

/-- A network whose policy is to drop everything. -/
def closedEnv : LoadEnv :=
  { homeEnv with acl := replyWith [{ value := { defaultAction := "drop", rules := [] } }] }

/-- The same network for a client that has no key for the policy. -/
def noKeyEnv : LoadEnv :=
  { homeEnv with
    acl := replyWith
      [{ value := { rules := [] },
         err := some { message := "decrypting data: role audience key unavailable" } }] }

/-- Once the policy has been read, losing the key for it leaves it in force. -/
theorem closedEnv_kept :
    ACLUnread noKeyEnv ∧ ∃ resp s',
      loadState homeConfig noKeyEnv
        (exec (Loader.load homeConfig) (newDWNClient emptyMemory) [closedEnv]) = .ok resp s' ∧
      ∃ policy, (∃ j, EventAt (Loader.load homeConfig) (newDWNClient emptyMemory) [closedEnv] j
          (Loader.Reads homeConfig policy)) ∧
        resp.packetFilter =
          buildFilterRules (some policy) (nodeAddress homePlatform s'.cached) := by
  have hu : ACLUnread noKeyEnv := rfl
  have hfails : failed (loadState homeConfig noKeyEnv
      (exec (Loader.load homeConfig) (newDWNClient emptyMemory) [closedEnv])) = false := by
    decide +kernel
  have hcached : (exec (Loader.load homeConfig) (newDWNClient emptyMemory)
      [closedEnv]).client.acl.isSome = true := by decide +kernel
  cases hl : loadState homeConfig noKeyEnv
      (exec (Loader.load homeConfig) (newDWNClient emptyMemory) [closedEnv]) with
  | ok resp s' =>
    have hfilter := Loader.unreadACL_filter homeConfig emptyMemory [closedEnv] hu hl
    exact ⟨hu, resp, s', rfl, hfilter.1 hcached⟩
  | error e s' =>
    rw [hl] at hfails
    cases hfails

/-- The packet filter of a load, if it succeeds. -/
def filterOf : EStateM.Result LoadError Loader MapResponse → Option (List FilterRule)
  | .ok resp _ => some resp.packetFilter
  | .error _ _ => none

/-- The first load of a node that has no key for the policy yet: the load succeeds and its filter
lets everything through, where the network's policy is to drop everything. -/
theorem noKeyEnv_open :
    ACLUnread noKeyEnv ∧
    filterOf (loadState homeConfig noKeyEnv (newDWNClient emptyMemory)) =
      some defaultFilterRules ∧
    filterOf (loadState homeConfig closedEnv (newDWNClient emptyMemory)) = some [] := by
  refine ⟨rfl, ?_, ?_⟩
  · decide +kernel
  · decide +kernel

end Meshd.Control
