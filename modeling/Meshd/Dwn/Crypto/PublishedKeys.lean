import Meshd.Dwn.Crypto.Protocol

namespace Meshd.Dwn.Crypto

open Meshd.Framework

variable {c : Primitives} {root parentKey : Bytes} {ruleSet out : List (String × Json)}
  {member : String × Json} {key name uri : String} {value : Json} {path : List String}

/-! ### What the recursion does to one member -/

theorem injectChild_obj {child : List (String × Json)} :
    injectChild c parentKey key (.obj child) = .ok value ↔ key ≠ "" ∧ ∃ injected,
      injectEncryptionRecursive c (c.hkdf parentKey key) child = .ok injected ∧
      value = .obj (keyRuleSet (c.x25519Base (c.hkdf parentKey key)) child injected) := by
  rw [injectChild]
  by_cases hkey : key = ""
  · subst hkey
    simp [derivePrivateKey, deriveKeyBytes, validateDerivationPath]
  · rw [derivePrivateKey_ok (by simpa using Ne.symm hkey) (by simp), mapError_ok, ok_bind]
    simp only [List.foldl_cons, List.foldl_nil, bind_eq_ok, ne_eq, hkey, not_false_eq_true,
      true_and]
    refine exists_congr fun injected => and_congr_right fun _ => ?_
    exact ⟨fun h => (Except.ok.inj h).symm, fun h => h ▸ rfl⟩

theorem injectChild_of_not_obj (h : value.asObject = none) :
    injectChild c parentKey key value = .ok value := by
  cases value with
  | obj child => simp [Json.asObject] at h
  | null => rw [injectChild]
  | bool b => rw [injectChild]
  | num n => rw [injectChild]
  | str s => rw [injectChild]
  | arr items => rw [injectChild]

theorem eq_of_injectChild_not_obj {value' : Json} (hn : value.asObject = none)
    (h : injectChild c parentKey key value = .ok value') : value' = value :=
  Except.ok.inj (h.symm.trans (injectChild_of_not_obj hn))

theorem injectMember_directive (h : isDirective key = true) (value : Json) :
    injectMember c parentKey (key, value) = .ok (key, value) := by
  rw [injectMember, if_pos h]

theorem injectMember_eq_ok (h : injectMember c parentKey (key, value) = .ok member) :
    ∃ value', member = (key, value') ∧
      if isDirective key then value' = value else injectChild c parentKey key value = .ok value' := by
  rw [injectMember] at h
  split_ifs at h ⊢ with hd
  · exact ⟨value, (Except.ok.inj h).symm, rfl⟩
  · obtain ⟨value', hv, rfl⟩ := map_eq_ok.mp h
    exact ⟨value', rfl, hv⟩

theorem injectEncryptionRecursive_nil :
    injectEncryptionRecursive c parentKey [] = .ok out ↔ out = [] := by
  simp [injectEncryptionRecursive, eq_comm]

theorem injectEncryptionRecursive_cons {rest : List (String × Json)} :
    injectEncryptionRecursive c parentKey (member :: rest) = .ok out ↔ ∃ member' rest',
      injectMember c parentKey member = .ok member' ∧
      injectEncryptionRecursive c parentKey rest = .ok rest' ∧ out = member' :: rest' := by
  rw [injectEncryptionRecursive, bind_eq_ok]
  refine exists_congr fun member' => ?_
  rw [bind_eq_ok]
  constructor
  · rintro ⟨hm, rest', hr, hout⟩
    exact ⟨rest', hm, hr, (Except.ok.inj hout).symm⟩
  · rintro ⟨rest', hm, hr, rfl⟩
    exact ⟨hm, rest', hr, rfl⟩

/-- The members of the output, one by one. -/
theorem field_injected (h : injectEncryptionRecursive c parentKey ruleSet = .ok out)
    (name : String) :
    (Json.field name ruleSet = none ∧ Json.field name out = none) ∨
    ∃ value value', Json.field name ruleSet = some value ∧ Json.field name out = some value' ∧
      if isDirective name then value' = value
      else injectChild c parentKey name value = .ok value' := by
  induction ruleSet generalizing out with
  | nil =>
    obtain rfl := injectEncryptionRecursive_nil.mp h
    exact .inl ⟨rfl, rfl⟩
  | cons member rest ih =>
    obtain ⟨key, value⟩ := member
    obtain ⟨member', rest', hm, hr, rfl⟩ := injectEncryptionRecursive_cons.mp h
    obtain ⟨value', rfl, hv⟩ := injectMember_eq_ok hm
    by_cases hkey : key = name
    · subst hkey
      exact .inr ⟨value, value', by simp [Json.field], by simp [Json.field], hv⟩
    · simpa only [Json.field, if_neg hkey] using ih hr

theorem field_injected_directive (h : injectEncryptionRecursive c parentKey ruleSet = .ok out)
    (hd : isDirective name = true) : Json.field name out = Json.field name ruleSet := by
  obtain ⟨h₁, h₂⟩ | ⟨value, value', h₁, h₂, hv⟩ := field_injected h name
  · rw [h₁, h₂]
  · rw [if_pos hd] at hv
    rw [h₁, h₂, hv]

/-- A member that is no rule set stays as it is. -/
theorem field_injected_kept (h : injectEncryptionRecursive c parentKey ruleSet = .ok out)
    (hn : isDirective name = true ∨ (Json.field name ruleSet).bind Json.asObject = none) :
    Json.field name out = Json.field name ruleSet := by
  obtain hd | hobj := hn
  · exact field_injected_directive h hd
  · obtain ⟨h₁, h₂⟩ | ⟨value, value', h₁, h₂, hv⟩ := field_injected h name
    · rw [h₁, h₂]
    · rw [h₁, Option.bind_some] at hobj
      split_ifs at hv
      · rw [h₁, h₂, hv]
      · rw [h₁, h₂, eq_of_injectChild_not_obj hobj hv]

/-- Setting a directive before or after the walk is the same. -/
theorem injectEncryptionRecursive_setField (hd : isDirective name = true) (directive : Json)
    (h : injectEncryptionRecursive c parentKey ruleSet = .ok out) :
    injectEncryptionRecursive c parentKey (Json.setField name directive ruleSet) =
      .ok (Json.setField name directive out) := by
  induction ruleSet generalizing out with
  | nil =>
    obtain rfl := injectEncryptionRecursive_nil.mp h
    exact injectEncryptionRecursive_cons.mpr ⟨(name, directive), [],
      injectMember_directive hd directive, by rw [injectEncryptionRecursive], rfl⟩
  | cons member rest ih =>
    obtain ⟨key, value⟩ := member
    obtain ⟨member', rest', hm, hr, rfl⟩ := injectEncryptionRecursive_cons.mp h
    obtain ⟨value', rfl, -⟩ := injectMember_eq_ok hm
    by_cases hkey : key = name
    · simp only [Json.setField, if_pos hkey]
      exact injectEncryptionRecursive_cons.mpr
        ⟨_, rest', injectMember_directive hd directive, hr, rfl⟩
    · simp only [Json.setField, if_neg hkey]
      exact injectEncryptionRecursive_cons.mpr ⟨_, _, hm, ih hr, rfl⟩

/-! ### The walk succeeds on well-named trees -/

mutual

/-- Every type name of the tree is non-empty and has no slash. -/
def WellNamed : List (String × Json) → Prop
  | [] => True
  | member :: rest => WellNamedMember member ∧ WellNamed rest

def WellNamedMember : String × Json → Prop
  | (key, value) => isDirective key = true ∨ WellNamedChild key value

def WellNamedChild (key : String) : Json → Prop
  | .obj child => (key ≠ "" ∧ '/' ∉ key.toList) ∧ WellNamed child
  | .null => True
  | .bool _ => True
  | .num _ => True
  | .str _ => True
  | .arr _ => True

end

mutual

def decidableWellNamed : ∀ ruleSet, Decidable (WellNamed ruleSet)
  | [] => inferInstanceAs (Decidable True)
  | member :: rest =>
    @instDecidableAnd _ _ (decidableWellNamedMember member) (decidableWellNamed rest)

def decidableWellNamedMember : ∀ member, Decidable (WellNamedMember member)
  | (key, value) => @instDecidableOr _ _ inferInstance (decidableWellNamedChild key value)

def decidableWellNamedChild (key : String) : ∀ value, Decidable (WellNamedChild key value)
  | .obj child => @instDecidableAnd _ _ inferInstance (decidableWellNamed child)
  | .null => inferInstanceAs (Decidable True)
  | .bool _ => inferInstanceAs (Decidable True)
  | .num _ => inferInstanceAs (Decidable True)
  | .str _ => inferInstanceAs (Decidable True)
  | .arr _ => inferInstanceAs (Decidable True)

end

instance : DecidablePred WellNamed := decidableWellNamed

mutual

theorem WellNamed.injected (parentKey : Bytes) : ∀ {ruleSet : List (String × Json)},
    WellNamed ruleSet → ∃ out, injectEncryptionRecursive c parentKey ruleSet = .ok out
  | [], _ => ⟨[], by rw [injectEncryptionRecursive]⟩
  | member :: rest, h => by
    rw [WellNamed] at h
    obtain ⟨member', hm⟩ := WellNamedMember.injected parentKey h.1
    obtain ⟨rest', hr⟩ := WellNamed.injected parentKey h.2
    exact ⟨member' :: rest', injectEncryptionRecursive_cons.mpr ⟨member', rest', hm, hr, rfl⟩⟩

theorem WellNamedMember.injected (parentKey : Bytes) : ∀ {member : String × Json},
    WellNamedMember member → ∃ member', injectMember c parentKey member = .ok member'
  | (key, value), h => by
    rw [WellNamedMember] at h
    by_cases hd : isDirective key = true
    · exact ⟨(key, value), injectMember_directive hd value⟩
    · obtain ⟨value', hv⟩ := WellNamedChild.injected parentKey (h.resolve_left hd)
      exact ⟨(key, value'), by rw [injectMember, if_neg hd, hv, ok_map]⟩

theorem WellNamedChild.injected (parentKey : Bytes) {key : String} : ∀ {value : Json},
    WellNamedChild key value → ∃ value', injectChild c parentKey key value = .ok value'
  | .obj child, h => by
    rw [WellNamedChild] at h
    obtain ⟨injected, hi⟩ := WellNamed.injected (c.hkdf parentKey key) h.2
    exact ⟨_, injectChild_obj.mpr ⟨h.1.1, injected, hi, rfl⟩⟩
  | .null, _ => ⟨_, injectChild_of_not_obj rfl⟩
  | .bool _, _ => ⟨_, injectChild_of_not_obj rfl⟩
  | .num _, _ => ⟨_, injectChild_of_not_obj rfl⟩
  | .str _, _ => ⟨_, injectChild_of_not_obj rfl⟩
  | .arr _, _ => ⟨_, injectChild_of_not_obj rfl⟩

end

theorem WellNamed.child {child : List (String × Json)} (h : WellNamed ruleSet)
    (hn : isDirective name = false) (hf : Json.field name ruleSet = some (.obj child)) :
    (name ≠ "" ∧ '/' ∉ name.toList) ∧ WellNamed child := by
  induction ruleSet with
  | nil => simp [Json.field] at hf
  | cons member rest ih =>
    obtain ⟨key, value⟩ := member
    rw [WellNamed, WellNamedMember] at h
    rw [Json.field] at hf
    split_ifs at hf with hkey
    · subst hkey
      obtain rfl := Option.some.inj hf
      have hchild := h.1.resolve_left (by simp [hn])
      rwa [WellNamedChild] at hchild
    · exact ih h.2 hf

/-! ### Applying it twice -/

theorem keyRuleSet_injected {child injected : List (String × Json)} (pub : Bytes)
    (h : injectEncryptionRecursive c parentKey child = .ok injected)
    (hagain : injectEncryptionRecursive c parentKey injected = .ok injected) :
    injectEncryptionRecursive c parentKey (keyRuleSet pub child injected) =
      .ok (keyRuleSet pub child injected) ∧
    keyRuleSet pub (keyRuleSet pub child injected) (keyRuleSet pub child injected) =
      keyRuleSet pub child injected := by
  have href : Json.field "$ref" injected = Json.field "$ref" child :=
    field_injected_directive h (by decide)
  by_cases hr : (Json.field "$ref" child).isSome
  · have heq : keyRuleSet pub child injected = injected := if_pos hr
    rw [heq]
    exact ⟨hagain, if_pos (href ▸ hr)⟩
  · have heq : keyRuleSet pub child injected =
        Json.setField "$keyAgreement" (keyAgreementDirective pub) injected := if_neg hr
    rw [heq]
    refine ⟨injectEncryptionRecursive_setField (by decide) _ hagain, ?_⟩
    rw [keyRuleSet, Json.field_setField_of_ne (by decide), href, if_neg hr]
    exact Json.setField_eq_self (Json.field_setField_self _ _ _)

theorem injectChild_twice_of_not_obj {value' : Json} (hn : value.asObject = none)
    (h : injectChild c parentKey key value = .ok value') :
    injectChild c parentKey key value' = .ok value' := by
  rw [eq_of_injectChild_not_obj hn h, injectChild_of_not_obj hn]

mutual

theorem injectEncryptionRecursive_twice {parentKey : Bytes} :
    ∀ {ruleSet out : List (String × Json)},
      injectEncryptionRecursive c parentKey ruleSet = .ok out →
      injectEncryptionRecursive c parentKey out = .ok out
  | [], out, h => by
    obtain rfl := injectEncryptionRecursive_nil.mp h
    rw [injectEncryptionRecursive]
  | member :: rest, out, h => by
    obtain ⟨member', rest', hm, hr, rfl⟩ := injectEncryptionRecursive_cons.mp h
    exact injectEncryptionRecursive_cons.mpr ⟨member', rest', injectMember_twice hm,
      injectEncryptionRecursive_twice hr, rfl⟩

theorem injectMember_twice {parentKey : Bytes} : ∀ {member member' : String × Json},
    injectMember c parentKey member = .ok member' →
    injectMember c parentKey member' = .ok member'
  | (key, value), member', h => by
    obtain ⟨value', rfl, hv⟩ := injectMember_eq_ok h
    rw [injectMember]
    split_ifs at hv ⊢
    · rfl
    · rw [injectChild_twice hv, ok_map]

theorem injectChild_twice {parentKey : Bytes} {key : String} : ∀ {value value' : Json},
    injectChild c parentKey key value = .ok value' →
    injectChild c parentKey key value' = .ok value'
  | .obj child, value', h => by
    obtain ⟨hkey, injected, hi, rfl⟩ := injectChild_obj.mp h
    obtain ⟨hwalk, hsame⟩ := keyRuleSet_injected (c.x25519Base (c.hkdf parentKey key)) hi
      (injectEncryptionRecursive_twice hi)
    exact injectChild_obj.mpr ⟨hkey, _, hwalk, congrArg Json.obj hsame.symm⟩
  | .null, _, h => injectChild_twice_of_not_obj rfl h
  | .bool _, _, h => injectChild_twice_of_not_obj rfl h
  | .num _, _, h => injectChild_twice_of_not_obj rfl h
  | .str _, _, h => injectChild_twice_of_not_obj rfl h
  | .arr _, _, h => injectChild_twice_of_not_obj rfl h

end

/-! ### Numbers below `2 ^ 53` survive -/

theorem small_keyAgreementDirective (pub : Bytes) : (keyAgreementDirective pub).Small := by
  simp [keyAgreementDirective, Json.Small, Json.SmallFields, Json.SmallField]

theorem smallFields_keyRuleSet (pub : Bytes) (child : List (String × Json))
    {injected : List (String × Json)} (h : Json.SmallFields injected) :
    Json.SmallFields (keyRuleSet pub child injected) := by
  rw [keyRuleSet]
  split_ifs
  · exact h
  · exact h.setField (small_keyAgreementDirective pub)

mutual

theorem smallFields_injected {parentKey : Bytes} : ∀ {ruleSet out : List (String × Json)},
    injectEncryptionRecursive c parentKey ruleSet = .ok out →
    Json.SmallFields ruleSet → Json.SmallFields out
  | [], _, h, hs => by
    obtain rfl := injectEncryptionRecursive_nil.mp h
    exact hs
  | _ :: _, _, h, hs => by
    obtain ⟨member', rest', hm, hr, rfl⟩ := injectEncryptionRecursive_cons.mp h
    exact ⟨smallField_injected hm hs.1, smallFields_injected hr hs.2⟩

theorem smallField_injected {parentKey : Bytes} : ∀ {member member' : String × Json},
    injectMember c parentKey member = .ok member' →
    Json.SmallField member → Json.SmallField member'
  | (_, _), _, h, hs => by
    obtain ⟨value', rfl, hv⟩ := injectMember_eq_ok h
    split_ifs at hv
    · exact hv ▸ hs
    · exact small_injected hv hs

theorem small_injected {parentKey : Bytes} {key : String} : ∀ {value value' : Json},
    injectChild c parentKey key value = .ok value' → value.Small → value'.Small
  | .obj child, _, h, hs => by
    obtain ⟨-, injected, hi, rfl⟩ := injectChild_obj.mp h
    exact smallFields_keyRuleSet _ _ (smallFields_injected hi hs)
  | .null, _, h, hs => eq_of_injectChild_not_obj rfl h ▸ hs
  | .bool _, _, h, hs => eq_of_injectChild_not_obj rfl h ▸ hs
  | .num _, _, h, hs => eq_of_injectChild_not_obj rfl h ▸ hs
  | .str _, _, h, hs => eq_of_injectChild_not_obj rfl h ▸ hs
  | .arr _, _, h, hs => eq_of_injectChild_not_obj rfl h ▸ hs

end

/-! ### Along a path -/

/-- The path of a type: its names, from the root down. -/
def TypePath (path : List String) : Prop := path ≠ [] ∧ ∀ name ∈ path, isDirective name = false

/-- A walk along type names never sees a directive. -/
theorem descend_setField (hd : isDirective name = true) (directive : Json)
    (ruleSet : List (String × Json)) (hp : TypePath path) :
    descend (Json.setField name directive ruleSet) path = descend ruleSet path := by
  obtain ⟨hne, hnames⟩ := hp
  cases path with
  | nil => exact absurd rfl hne
  | cons first rest =>
    have hfirst : first ≠ name := by
      rintro rfl
      simp [hnames first (by simp)] at hd
    rw [descend, descend, Json.field_setField_of_ne hfirst]

theorem descend_keyRuleSet (pub : Bytes) (child injected : List (String × Json))
    (hp : TypePath path) :
    descend (keyRuleSet pub child injected) path = descend injected path := by
  rw [keyRuleSet]
  split_ifs
  · rfl
  · exact descend_setField (by decide) _ _ hp

theorem descend_cons {rest : List String} :
    descend ruleSet (name :: rest) = some out ↔
      ∃ child, Json.field name ruleSet = some (.obj child) ∧ descend child rest = some out := by
  rw [descend]
  constructor
  · intro h
    obtain ⟨child, hchild, hrest⟩ := Option.bind_eq_some_iff.mp h
    obtain ⟨value, hvalue, hobj⟩ := Option.bind_eq_some_iff.mp hchild
    cases value with
    | obj fields =>
      obtain rfl := Option.some.inj hobj
      exact ⟨fields, hvalue, hrest⟩
    | null => cases hobj
    | bool b => cases hobj
    | num n => cases hobj
    | str s => cases hobj
    | arr items => cases hobj
  · rintro ⟨child, hf, hrest⟩
    rw [hf]
    exact hrest

/-- The rule set at a path in the output: the one of the input, walked under the key that the path
derives, with that key published. -/
theorem descend_injected {target : List (String × Json)}
    (h : injectEncryptionRecursive c parentKey ruleSet = .ok out) (hp : TypePath path)
    (ht : descend ruleSet path = some target) :
    ∃ injected,
      injectEncryptionRecursive c (path.foldl c.hkdf parentKey) target = .ok injected ∧
      descend out path = some
        (keyRuleSet (c.x25519Base (path.foldl c.hkdf parentKey)) target injected) := by
  induction path generalizing parentKey ruleSet out with
  | nil => exact absurd rfl hp.1
  | cons name rest ih =>
    obtain ⟨child, hchild, hrest⟩ := descend_cons.mp ht
    have hname : isDirective name = false := hp.2 name (by simp)
    obtain ⟨hnone, -⟩ | ⟨value, value', hv, hv', hi⟩ := field_injected h name
    · rw [hnone] at hchild
      cases hchild
    rw [hv] at hchild
    obtain rfl := Option.some.inj hchild
    rw [if_neg (by simp [hname])] at hi
    obtain ⟨-, injected, hinj, rfl⟩ := injectChild_obj.mp hi
    by_cases hlast : rest = []
    · subst hlast
      obtain rfl := Option.some.inj hrest
      exact ⟨injected, hinj, descend_cons.mpr ⟨_, hv', rfl⟩⟩
    · have hp' : TypePath rest := ⟨hlast, fun n hn => hp.2 n (List.mem_cons_of_mem _ hn)⟩
      obtain ⟨deeper, hdeep, hout⟩ := ih hinj hp' hrest
      refine ⟨deeper, hdeep, descend_cons.mpr ⟨_, hv', ?_⟩⟩
      rw [descend_keyRuleSet _ _ _ hp', hout]
      rfl

theorem WellNamed.names {target : List (String × Json)} (h : WellNamed ruleSet)
    (hp : ∀ name ∈ path, isDirective name = false) (ht : descend ruleSet path = some target) :
    ∀ name ∈ path, name ≠ "" ∧ '/' ∉ name.toList := by
  induction path generalizing ruleSet with
  | nil => simp
  | cons first rest ih =>
    obtain ⟨child, hchild, hrest⟩ := descend_cons.mp ht
    obtain ⟨hfirst, hwell⟩ := h.child (hp first (by simp)) hchild
    have htail := ih hwell (fun n hn => hp n (List.mem_cons_of_mem _ hn)) hrest
    intro name hname
    obtain rfl | hmem := List.mem_cons.mp hname
    · exact hfirst
    · exact htail name hmem

theorem walkRuleSets_ok {protocolPath : String} {target : List (String × Json)}
    (h : descend ruleSet path = some target) :
    walkRuleSets protocolPath ruleSet path = .ok target := by
  induction path generalizing ruleSet with
  | nil => rw [walkRuleSets, ← Option.some.inj h]
  | cons name rest ih =>
    obtain ⟨child, hchild, hrest⟩ := descend_cons.mp h
    rw [walkRuleSets, hchild]
    exact ih hrest

theorem keyAgreementPublicKey_keyed {pub : Bytes} (hlen : pub.length = 32)
    (h : Json.field "$keyAgreement" ruleSet = some (keyAgreementDirective pub)) :
    keyAgreementPublicKey ruleSet = .ok pub := by
  have hx : Base64.rawURLEncode pub ≠ "" := by
    intro he
    have hnil : Base64.rawURLEncode [] = "" := by decide
    have hpub : pub = [] := Base64.rawURLEncode_injective (he.trans hnil.symm)
    simp [hpub] at hlen
  rw [keyAgreementPublicKey, h]
  simp [keyAgreementDirective, Json.asObject, Json.field, Json.asString, hx, x25519KeySize, hlen]

/-! ### The whole definition -/

theorem structureOf_eq {defMap ruleSets : List (String × Json)}
    (h : Json.field "structure" defMap = some (.obj ruleSets)) :
    structureOf defMap = .ok ruleSets := by
  rw [structureOf, h]
  rfl

theorem protocolOf_eq {defMap : List (String × Json)}
    (h : Json.field "protocol" defMap = some (.str uri)) (hne : uri ≠ "") :
    protocolOf defMap = .ok uri := by
  rw [protocolOf, h]
  exact if_neg hne

theorem unmarshalMap_of_small {defMap : List (String × Json)} (h : Json.SmallFields defMap) :
    unmarshalMap (.obj defMap) = .ok defMap := by
  have hobj : (Json.obj defMap).Small := h
  rw [unmarshalMap, Json.unmarshal_of_small hobj]

/-- The key at the root of a protocol. -/
def protocolLevelKey (c : Primitives) (root : Bytes) (uri : String) : Bytes :=
  [derivationSchemeProtocolPath, uri].foldl c.hkdf root

theorem injectEncryptionDirectives_eq {defMap ruleSets injected : List (String × Json)}
    (hsmall : Json.SmallFields defMap) (huri : Json.field "protocol" defMap = some (.str uri))
    (hne : uri ≠ "") (hstruct : Json.field "structure" defMap = some (.obj ruleSets))
    (h : injectEncryptionRecursive c (protocolLevelKey c root uri) ruleSets = .ok injected) :
    injectEncryptionDirectives c (.obj defMap) root =
      .ok (.obj (Json.setField "structure" (.obj injected) (Json.setField "$keyAgreement"
        (keyAgreementDirective (c.x25519Base (protocolLevelKey c root uri))) defMap))) := by
  have hpath : "" ∉ [derivationSchemeProtocolPath, uri] := by
    simp [derivationSchemeProtocolPath, Ne.symm hne]
  rw [injectEncryptionDirectives, unmarshalMap_of_small hsmall, ok_bind, protocolOf_eq huri hne,
    ok_bind, structureOf_eq hstruct, ok_bind, deriveKeyBytes_ok hpath, mapError_ok, ok_bind,
    x25519PublicKey_ok (length_foldl_hkdf (by simp) root), mapError_ok, ok_bind]
  change (injectEncryptionRecursive c (protocolLevelKey c root uri) ruleSets >>= _) = _
  rw [h]
  rfl

/-- What the output says of the rule set at a path. -/
structure Published (c : Primitives) (root : Bytes) (uri : String) (output : Json)
    (path : List String) (before after : List (String × Json)) : Prop where
  /-- Only the key and the rule sets below change. -/
  kept : ∀ name, name ≠ "$keyAgreement" →
    isDirective name = true ∨ (Json.field name before).bind Json.asObject = none →
    Json.field name after = Json.field name before
  ref : (Json.field "$ref" before).isSome = true →
    Json.field "$keyAgreement" after = Json.field "$keyAgreement" before
  /-- The published key is the public half of what the owner derives. -/
  keyed : Json.field "$ref" before = none → ∃ privateKey,
    (EncryptionKeyManager.mk root uri).deriveDecryptionKey c ("/".intercalate path) =
      .ok privateKey ∧
    rolePathPublicKeyJWK c root uri ("/".intercalate path) =
      .ok ⟨"OKP", "X25519", Base64.rawURLEncode (c.x25519Base privateKey)⟩ ∧
    Json.field "$keyAgreement" after =
      some (keyAgreementDirective (c.x25519Base privateKey)) ∧
    keyAgreementPublicKeyAtPath c output ("/".intercalate path) =
      .ok (c.x25519Base privateKey, thumbprintForPublicKey c (c.x25519Base privateKey))

theorem deriveDecryptionKey_ok (hne : uri ≠ "") (hp : path ≠ [])
    (hnames : ∀ name ∈ path, name ≠ "" ∧ '/' ∉ name.toList) (root : Bytes) :
    (EncryptionKeyManager.mk root uri).deriveDecryptionKey c ("/".intercalate path) =
      .ok (path.foldl c.hkdf (protocolLevelKey c root uri)) ∧
    rolePathPublicKeyJWK c root uri ("/".intercalate path) =
      .ok ⟨"OKP", "X25519", Base64.rawURLEncode
        (c.x25519Base (path.foldl c.hkdf (protocolLevelKey c root uri)))⟩ := by
  have hfull : "" ∉ buildProtocolPathDerivation uri path := by
    simp only [buildProtocolPathDerivation, derivationSchemeProtocolPath, List.mem_cons, not_or]
    exact ⟨by decide, Ne.symm hne, fun h => (hnames "" h).1 rfl⟩
  have hcons : buildProtocolPathDerivation uri path ≠ [] := by simp [buildProtocolPathDerivation]
  constructor
  · rw [EncryptionKeyManager.deriveDecryptionKey, splitProtocolPath_intercalate hp hnames,
      derivePrivateKey_ok hfull hcons]
    rfl
  · rw [rolePathPublicKeyJWK, deriveRolePathKey, splitProtocolPath_intercalate hp hnames,
      deriveKeyBytes_ok hfull, ok_bind, x25519PublicKey_ok (length_foldl_hkdf hcons root)]
    rfl

theorem published_of_descend (hne : uri ≠ "")
    {output ruleSets published before : List (String × Json)} (hsmall : Json.SmallFields output)
    (hstruct : Json.field "structure" output = some (.obj published))
    (hnames : WellNamed ruleSets)
    (h : injectEncryptionRecursive c (protocolLevelKey c root uri) ruleSets = .ok published)
    (hp : TypePath path) (hb : descend ruleSets path = some before) :
    ∃ after, descend published path = some after ∧
      Published c root uri (.obj output) path before after := by
  obtain ⟨injected, hinj, hafter⟩ := descend_injected h hp hb
  have hpath := hnames.names hp.2 hb
  set priv := path.foldl c.hkdf (protocolLevelKey c root uri) with hpriv
  have hlen : (c.x25519Base priv).length = 32 :=
    c.length_x25519Base priv (length_foldl_hkdf hp.1 _)
  refine ⟨_, hafter, ?_, ?_, ?_⟩
  · intro name hname hkept
    rw [keyRuleSet]
    split_ifs
    · exact field_injected_kept hinj hkept
    · rw [Json.field_setField_of_ne hname]
      exact field_injected_kept hinj hkept
  · intro href
    rw [keyRuleSet, if_pos href]
    exact field_injected_directive hinj (by decide)
  · intro href
    have hkeyed : Json.field "$keyAgreement" (keyRuleSet (c.x25519Base priv) before injected) =
        some (keyAgreementDirective (c.x25519Base priv)) := by
      rw [keyRuleSet, if_neg (by simp [href]), Json.field_setField_self]
    obtain ⟨hdecrypt, hrole⟩ := deriveDecryptionKey_ok (c := c) hne hp.1 hpath root
    refine ⟨priv, hdecrypt, hrole, hkeyed, ?_⟩
    rw [keyAgreementPublicKeyAtPath, if_neg (intercalate_ne_empty hp.1 hpath),
      unmarshalMap_of_small hsmall, ok_bind, structureOf_eq hstruct, ok_bind, ruleSetAtPath,
      splitProtocolPath_intercalate hp.1 hpath, walkRuleSets_ok hafter, ok_bind,
      keyAgreementPublicKey_keyed hlen hkeyed]
    rfl

/-- The output of the injection, member by member. -/
structure Injected (c : Primitives) (root : Bytes) (uri : String)
    (definition ruleSets output published : List (String × Json)) : Prop where
  output_eq : injectEncryptionDirectives c (.obj definition) root = .ok (.obj output)
  walked : injectEncryptionRecursive c (protocolLevelKey c root uri) ruleSets = .ok published
  small : Json.SmallFields output
  keyed : Json.field "$keyAgreement" output =
    some (keyAgreementDirective (c.x25519Base (protocolLevelKey c root uri)))
  ruleSets_eq : Json.field "structure" output = some (.obj published)
  kept : ∀ name, name ≠ "$keyAgreement" → name ≠ "structure" →
    Json.field name output = Json.field name definition

theorem exists_injected {definition ruleSets : List (String × Json)}
    (huri : Json.field "protocol" definition = some (.str uri)) (hne : uri ≠ "")
    (hstruct : Json.field "structure" definition = some (.obj ruleSets))
    (hnames : WellNamed ruleSets) (hsmall : Json.SmallFields definition) (root : Bytes) :
    ∃ output published, Injected c root uri definition ruleSets output published := by
  obtain ⟨published, hpub⟩ := hnames.injected (c := c) (protocolLevelKey c root uri)
  have hrules : Json.SmallFields ruleSets := hsmall.field hstruct
  have hpubSmall : (Json.obj published).Small := smallFields_injected hpub hrules
  refine ⟨_, published, injectEncryptionDirectives_eq hsmall huri hne hstruct hpub, hpub, ?_, ?_,
    Json.field_setField_self _ _ _, fun name hka hst => ?_⟩
  · exact (hsmall.setField (small_keyAgreementDirective _)).setField hpubSmall
  · rw [Json.field_setField_of_ne (by decide), Json.field_setField_self]
  · rw [Json.field_setField_of_ne hst, Json.field_setField_of_ne hka]

/-- Injecting the keys succeeds on every well-named definition, publishes at every path the key that
the owner derives there, changes nothing else, and changes nothing when it is applied again. -/
theorem injectEncryptionDirectives_publishes {definition ruleSets : List (String × Json)}
    {uri : String} (huri : Json.field "protocol" definition = some (.str uri)) (hne : uri ≠ "")
    (hstruct : Json.field "structure" definition = some (.obj ruleSets))
    (hnames : WellNamed ruleSets) (hsmall : Json.SmallFields definition) (root : Bytes) :
    ∃ output published,
      injectEncryptionDirectives c (.obj definition) root = .ok (.obj output) ∧
      injectEncryptionDirectives c (.obj output) root = .ok (.obj output) ∧
      Json.field "structure" output = some (.obj published) ∧
      (∀ name, name ≠ "$keyAgreement" → name ≠ "structure" →
        Json.field name output = Json.field name definition) ∧
      (∀ name, isDirective name = true ∨ (Json.field name ruleSets).bind Json.asObject = none →
        Json.field name published = Json.field name ruleSets) ∧
      ∀ path before, TypePath path → descend ruleSets path = some before →
        ∃ after, descend published path = some after ∧
          Published c root uri (.obj output) path before after := by
  obtain ⟨output, published, h⟩ := exists_injected (c := c) huri hne hstruct hnames hsmall root
  have huri' : Json.field "protocol" output = some (.str uri) :=
    (h.kept _ (by decide) (by decide)).trans huri
  refine ⟨output, published, h.output_eq, ?_, h.ruleSets_eq, h.kept,
    fun name hn => field_injected_kept h.walked hn, fun path before hp hb =>
      published_of_descend hne h.small h.ruleSets_eq hnames h.walked hp hb⟩
  -- both members are already what the second application sets them to
  rw [injectEncryptionDirectives_eq h.small huri' hne h.ruleSets_eq
    (injectEncryptionRecursive_twice h.walked), Json.setField_eq_self h.keyed,
    Json.setField_eq_self h.ruleSets_eq]

/-- A type attached by `$ref`, and one below it. -/
def attachedTypes : List (String × Json) :=
  [("network", .obj [("$ref", .str "other:network"),
    ("node", .obj [("$size", .obj [("max", .num 4096)])])])]

def attachedDefinition : List (String × Json) :=
  [("protocol", .str "https://example.com/mesh"), ("structure", .obj attachedTypes)]

theorem attachedDefinition_publishes : ∃ output published after,
    injectEncryptionDirectives .transparent (.obj attachedDefinition) (List.replicate 32 7) =
      .ok (.obj output) ∧
    Json.field "structure" output = some (.obj published) ∧
    descend published ["network", "node"] = some after ∧
    Published .transparent (List.replicate 32 7) "https://example.com/mesh" (.obj output)
      ["network", "node"] [("$size", .obj [("max", .num 4096)])] after := by
  have hnamed : WellNamed attachedTypes := by decide
  have hsmall : Json.SmallFields attachedDefinition := by decide
  obtain ⟨output, published, hout, -, hstruct, -, -, hpaths⟩ :=
    injectEncryptionDirectives_publishes (c := .transparent)
      (show Json.field "protocol" attachedDefinition = some (.str "https://example.com/mesh") from rfl)
      (by decide) rfl hnamed hsmall (List.replicate 32 7)
  obtain ⟨after, hafter, hpub⟩ := hpaths ["network", "node"] _ ⟨by decide, by decide⟩ rfl
  exact ⟨output, published, after, hout, hstruct, hafter, hpub⟩

end Meshd.Dwn.Crypto
