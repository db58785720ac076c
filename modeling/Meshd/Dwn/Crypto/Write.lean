import Meshd.Dwn.Crypto.PublishedKeys

namespace Meshd.Dwn.Crypto

open Meshd.Framework

/-- `strings.Split(text, "/")`. -/
def splitSlashes (text : String) : List String := (text.toList.splitOn '/').map String.ofList

def roleAudienceContextID (rolePath sourceContextID : String) : Except String String :=
  let depth := (splitSlashes rolePath).length - 1
  let segments := splitSlashes sourceContextID
  if depth = 0 then .ok ""
  else if sourceContextID = "" then
    .error ("role " ++ rolePath.quote ++ " requires " ++ toString depth ++
      " context segment(s) but contextId is empty")
  else if segments.length < depth then
    .error ("contextId " ++ sourceContextID.quote ++ " has " ++ toString segments.length ++
      " segment(s), need " ++ toString depth ++ " for role " ++ rolePath.quote)
  else .ok ("/".intercalate (segments.take depth))

def actionCanRead (can : Option Json) : Bool :=
  match can.bind Json.asArray with
  | none => false
  | some items => items.any fun item => item.asString = some "read"

/-- The role that one rule of `$actions` lets read, if it is a role of this protocol. -/
def readingRole (action : Json) : Option String :=
  match action.asObject with
  | none => none
  | some fields =>
    let role := ((Json.field "role" fields).bind Json.asString).getD ""
    if role = "" ∨ ':' ∈ role.toList then none
    else if actionCanRead (Json.field "can" fields) then some role
    else none

def readingRoles (ruleSet : List (String × Json)) : List String :=
  match (Json.field "$actions" ruleSet).bind Json.asArray with
  | none => []
  | some actions => actions.filterMap readingRole

/-- How to wrap the content key for one recipient. -/
structure KeyEncryptionInput where
  publicKey : Bytes
  derivationScheme : String
  protocol : String := ""
  rolePath : String := ""
deriving DecidableEq

/-- The public key and its ID that an `AudienceSource` resolves for a protocol, role path and
context. -/
abbrev AudienceSource := String → String → String → Except String (Bytes × String)

variable (c : Primitives)

/-- The turn of the loop for one reading role. -/
def audienceInput (protocolURI parentContextID : String) (audiences : AudienceSource)
    (rolePath : String) : Except String KeyEncryptionInput := do
  let contextID ← roleAudienceContextID rolePath parentContextID
  let (pub, keyID) ← (audiences protocolURI rolePath contextID).mapError
    ("resolving audience for role " ++ rolePath.quote ++ " (context " ++ contextID.quote ++ "): " ++ ·)
  if pub.length ≠ x25519KeySize then
    .error ("audience public key for role " ++ rolePath.quote ++ " must be 32 bytes, got " ++
      toString pub.length)
  else if thumbprintForPublicKey c pub ≠ keyID then
    .error ("audience keyId " ++ keyID.quote ++ " for role " ++ rolePath.quote ++
      " does not match public key thumbprint " ++ (thumbprintForPublicKey c pub).quote)
  else .ok { publicKey := pub, derivationScheme := derivationSchemeRoleAudience,
             protocol := protocolURI, rolePath := rolePath }

def audienceInputs (protocolURI parentContextID : String) (audiences : AudienceSource) :
    List String → Except String (List KeyEncryptionInput)
  | [] => .ok []
  | rolePath :: rest => do
    let input ← audienceInput c protocolURI parentContextID audiences rolePath
    let inputs ← audienceInputs protocolURI parentContextID audiences rest
    return input :: inputs

def buildWriteEncryption (protocolDef : Json) (protocolPath parentContextID : String)
    (audiences : AudienceSource) : Except String (List KeyEncryptionInput) := do
  if protocolPath = "" then .error "protocolPath is required"
  else
    let defMap ← unmarshalMap protocolDef
    let protocolURI ← protocolOf defMap
    let ruleSets ← structureOf defMap
    let ruleSet ← ruleSetAtPath ruleSets protocolPath
    let ownerPub ← (keyAgreementPublicKey ruleSet).mapError
      ("protocol path " ++ protocolPath.quote ++ ": " ++ ·)
    let inputs ← audienceInputs c protocolURI parentContextID audiences (readingRoles ruleSet)
    return { publicKey := ownerPub, derivationScheme := derivationSchemeProtocolPath } :: inputs

variable {c} {parent protocolURI : String} {audiences : AudienceSource}

/-- A role one level below the root has the first segment of the source's context. -/
theorem roleAudienceContextID_nested {rolePath : String}
    (hrole : (splitSlashes rolePath).length = 2) {networkID : String} (hne : networkID ≠ "")
    (hslash : '/' ∉ networkID.toList)
    (hp : parent = networkID ∨ ∃ rest, parent = networkID ++ "/" ++ rest) :
    roleAudienceContextID rolePath parent = .ok networkID := by
  have hsplit : ∃ rest, splitSlashes parent = networkID :: rest := by
    obtain rfl | ⟨rest, rfl⟩ := hp
    · exact ⟨[], by simp [splitSlashes, List.splitOn_eq_singleton hslash]⟩
    · refine ⟨(rest.toList.splitOn '/').map String.ofList, ?_⟩
      have htext : (networkID ++ "/" ++ rest).toList = networkID.toList ++ '/' :: rest.toList := by
        simp
      rw [splitSlashes, htext, List.splitOn_append_cons_self_of_not_mem hslash]
      simp
  have hparent : parent ≠ "" := by
    rintro rfl
    obtain h | ⟨rest, h⟩ := hp
    · exact hne h.symm
    · simpa using congrArg String.toList h
  obtain ⟨rest, hrest⟩ := hsplit
  simp [roleAudienceContextID, hrole, hparent, hrest]

theorem audienceInput_eq_ok {rolePath : String} {input : KeyEncryptionInput}
    (h : audienceInput c protocolURI parent audiences rolePath = .ok input) :
    ∃ contextID pub keyID, roleAudienceContextID rolePath parent = .ok contextID ∧
      audiences protocolURI rolePath contextID = .ok (pub, keyID) ∧
      input = { publicKey := pub, derivationScheme := derivationSchemeRoleAudience,
                protocol := protocolURI, rolePath := rolePath } := by
  rw [audienceInput, bind_eq_ok] at h
  obtain ⟨contextID, hctx, h⟩ := h
  rw [bind_eq_ok] at h
  obtain ⟨⟨pub, keyID⟩, hcur, h⟩ := h
  rw [mapError_eq_ok] at hcur
  refine ⟨contextID, pub, keyID, hctx, hcur, ?_⟩
  dsimp only at h
  split_ifs at h
  exact (Except.ok.inj h).symm

theorem mem_audienceInputs {roles : List String} {inputs : List KeyEncryptionInput}
    (h : audienceInputs c protocolURI parent audiences roles = .ok inputs)
    (input : KeyEncryptionInput) :
    input ∈ inputs ↔
      ∃ role ∈ roles, audienceInput c protocolURI parent audiences role = .ok input := by
  induction roles generalizing inputs with
  | nil =>
    obtain rfl := Except.ok.inj h
    simp
  | cons role rest ih =>
    rw [audienceInputs, bind_eq_ok] at h
    obtain ⟨first, hfirst, h⟩ := h
    rw [bind_eq_ok] at h
    obtain ⟨others, hothers, h⟩ := h
    obtain rfl := Except.ok.inj h
    simp only [List.mem_cons, ih hothers, exists_eq_or_imp, hfirst, Except.ok.injEq]
    rw [eq_comm]

theorem audienceInput_of_mem {roles : List String} {inputs : List KeyEncryptionInput}
    (h : audienceInputs c protocolURI parent audiences roles = .ok inputs) {role : String}
    (hrole : role ∈ roles) :
    ∃ input, audienceInput c protocolURI parent audiences role = .ok input := by
  induction roles generalizing inputs with
  | nil => cases hrole
  | cons first rest ih =>
    rw [audienceInputs, bind_eq_ok] at h
    obtain ⟨input, hfirst, h⟩ := h
    rw [bind_eq_ok] at h
    obtain ⟨others, hothers, -⟩ := h
    obtain rfl | hrest := List.mem_cons.mp hrole
    · exact ⟨input, hfirst⟩
    · exact ih hothers hrest

theorem audienceInputs_ok {roles : List String}
    (h : ∀ role ∈ roles, ∃ input, audienceInput c protocolURI parent audiences role = .ok input) :
    ∃ inputs, audienceInputs c protocolURI parent audiences roles = .ok inputs := by
  induction roles with
  | nil => exact ⟨[], rfl⟩
  | cons role rest ih =>
    obtain ⟨input, hin⟩ := h role (by simp)
    obtain ⟨inputs, hins⟩ := ih fun r hr => h r (List.mem_cons_of_mem _ hr)
    exact ⟨input :: inputs, by rw [audienceInputs, hin, ok_bind, hins]; rfl⟩

/-! ### All rule sets of a definition -/

mutual

/-- The rule sets of a tree with their paths. -/
def ruleSetsIn : List (String × Json) → List (List String × List (String × Json))
  | [] => []
  | member :: rest => ruleSetsOfMember member ++ ruleSetsIn rest

def ruleSetsOfMember : String × Json → List (List String × List (String × Json))
  | (key, value) => if isDirective key then [] else ruleSetsOfChild key value

def ruleSetsOfChild (key : String) : Json → List (List String × List (String × Json))
  | .obj child => ([key], child) :: (ruleSetsIn child).map fun r => (key :: r.1, r.2)
  | .null => []
  | .bool _ => []
  | .num _ => []
  | .str _ => []
  | .arr _ => []

end

theorem ruleSetsOfChild_subset {name : String} (hn : isDirective name = false)
    {ruleSet child : List (String × Json)}
    (h : Json.field name ruleSet = some (.obj child)) :
    ruleSetsOfChild name (.obj child) ⊆ ruleSetsIn ruleSet := by
  induction ruleSet with
  | nil => cases h
  | cons member rest ih =>
    obtain ⟨key, value⟩ := member
    rw [Json.field] at h
    rw [ruleSetsIn]
    split_ifs at h with hkey
    · subst hkey
      obtain rfl := Option.some.inj h
      rw [ruleSetsOfMember, if_neg (by simp [hn])]
      exact List.subset_append_left _ _
    · exact List.Subset.trans (ih h) (List.subset_append_right _ _)

theorem mem_ruleSetsIn {ruleSet target : List (String × Json)} {path : List String}
    (hp : TypePath path) (h : descend ruleSet path = some target) :
    (path, target) ∈ ruleSetsIn ruleSet := by
  induction path generalizing ruleSet with
  | nil => exact absurd rfl hp.1
  | cons name rest ih =>
    obtain ⟨child, hchild, hrest⟩ := descend_cons.mp h
    apply ruleSetsOfChild_subset (hp.2 name (by simp)) hchild
    rw [ruleSetsOfChild]
    by_cases hlast : rest = []
    · subst hlast
      obtain rfl := Option.some.inj hrest
      exact List.mem_cons_self
    · have hp' : TypePath rest := ⟨hlast, fun n hn => hp.2 n (List.mem_cons_of_mem _ hn)⟩
      exact List.mem_cons_of_mem _ (List.mem_map.mpr ⟨(rest, target), ih hp' hrest, rfl⟩)

end Meshd.Dwn.Crypto
