import Meshd.Dwn.Crypto.Write

namespace Meshd.Mesh.MeshProtocol

open Meshd.Framework Meshd.Dwn.Crypto

/-! The mesh protocol definition, `protocols/wireguard-mesh.json`. -/

def meshProtocolURI : String := "https://enbox.id/protocols/wireguard-mesh"

/-- The rules of an `$actions` list. -/
def who (actor : String) (can : List String) : Json :=
  .obj [("who", .str actor), ("can", .arr (can.map .str))]

def whoOf (actor path : String) (can : List String) : Json :=
  .obj [("who", .str actor), ("of", .str path), ("can", .arr (can.map .str))]

def role (path : String) (can : List String) : Json :=
  .obj [("role", .str path), ("can", .arr (can.map .str))]

def sizeMax (max : Int) : String × Json := ("$size", .obj [("max", .num max)])

/-- `nodeInfo` and `endpoint` are the same below `network/node` and `network/member/node`, up to the
path of the node. -/
def nodeInfo (nodePath : String) : List (String × Json) := [
  ("$squash", .bool true), sizeMax 5000,
  ("$actions", .arr [
    whoOf "recipient" nodePath ["create", "update"],
    role "network/member" ["read"],
    role "network/node" ["read"]])]

def endpoint (nodePath : String) : List (String × Json) := [
  ("$squash", .bool true), sizeMax 2000,
  ("$actions", .arr [
    whoOf "recipient" nodePath ["create", "update"],
    role "network/member" ["read"],
    role "network/node" ["read"]])]

def node (nodePath : String) : List (String × Json) := [
  ("$role", .bool true), ("$squash", .bool true), sizeMax 10000,
  ("$actions", .arr [
    whoOf "author" "network" ["create", "update", "delete"],
    role "network/member" ["read"],
    role "network/node" ["read"]]),
  ("nodeInfo", .obj (nodeInfo nodePath)),
  ("endpoint", .obj (endpoint nodePath))]

def memberNodeRequest : List (String × Json) := [
  sizeMax 2000,
  ("$actions", .arr [
    whoOf "recipient" "network/member" ["create", "delete"],
    whoOf "author" "network" ["read", "co-delete"],
    role "network/member" ["read"]])]

def member : List (String × Json) := [
  ("$role", .bool true),
  ("$actions", .arr [
    whoOf "author" "network" ["create", "update", "co-delete", "co-prune"],
    role "network/member" ["read"],
    role "network/node" ["read"]]),
  ("nodeRequest", .obj memberNodeRequest),
  ("node", .obj (node "network/member/node"))]

def networkNodeRequest : List (String × Json) := [
  sizeMax 2000,
  ("$actions", .arr [
    who "anyone" ["create"],
    whoOf "author" "network" ["create", "read", "delete", "co-delete"]])]

def aclPolicy : List (String × Json) := [
  ("$squash", .bool true), sizeMax 100000,
  ("$actions", .arr [
    whoOf "author" "network" ["create", "update"],
    role "network/member" ["read"],
    role "network/node" ["read"]])]

def relay : List (String × Json) := [
  ("$actions", .arr [
    whoOf "author" "network" ["create", "update", "delete"],
    role "network/member" ["read"],
    role "network/node" ["read"]])]

def preAuthKey : List (String × Json) := [
  ("$recordLimit", .obj [("max", .num 100), ("strategy", .str "reject")]),
  ("$actions", .arr [whoOf "author" "network" ["create", "delete", "read"]])]

def network : List (String × Json) := [
  ("$actions", .arr [who "anyone" ["read"]]),
  ("member", .obj member),
  ("nodeRequest", .obj networkNodeRequest),
  ("node", .obj (node "network/node")),
  ("aclPolicy", .obj aclPolicy),
  ("relay", .obj relay),
  ("preAuthKey", .obj preAuthKey)]

def nodeRequest : List (String × Json) := [
  sizeMax 3000,
  ("$actions", .arr [
    who "anyone" ["create"],
    whoOf "recipient" "nodeRequest" ["create", "read", "delete"],
    whoOf "author" "nodeRequest" ["create", "read", "delete"]])]

def nodeApproval : List (String × Json) := [
  sizeMax 3000,
  ("$actions", .arr [
    whoOf "recipient" "nodeApproval" ["read"],
    whoOf "author" "nodeApproval" ["create", "read", "delete"]])]

def ruleSets : List (String × Json) := [
  ("nodeRequest", .obj nodeRequest),
  ("nodeApproval", .obj nodeApproval),
  ("network", .obj network)]

/-- The types, with the member that says whether their records are encrypted. -/
def types : List (String × Json) := [
  ("network", .obj []), ("member", .obj []), ("nodeRequest", .obj []), ("nodeApproval", .obj []),
  ("node", .obj [("encryptionRequired", .bool true)]),
  ("nodeInfo", .obj [("encryptionRequired", .bool true)]),
  ("endpoint", .obj [("encryptionRequired", .bool true)]),
  ("aclPolicy", .obj [("encryptionRequired", .bool true)]),
  ("relay", .obj [("encryptionRequired", .bool true)]),
  ("preAuthKey", .obj [("encryptionRequired", .bool true)])]

def definition : List (String × Json) := [
  ("protocol", .str meshProtocolURI), ("published", .bool true), ("types", .obj types),
  ("structure", .obj ruleSets)]

/-- The last name of a path is the type of its records. -/
def encrypted (path : List String) : Bool :=
  match path.getLast?.bind (Json.field · types) with
  | some (.obj fields) =>
    match Json.field "encryptionRequired" fields with
    | some (.bool required) => required
    | _ => false
  | _ => false

/-- An encrypted type is read by both roles or by no role. -/
theorem readingRoles_of_encrypted {path : List String} {ruleSet : List (String × Json)}
    (hp : TypePath path) (h : descend ruleSets path = some ruleSet) (he : encrypted path = true) :
    readingRoles ruleSet = [] ∨ readingRoles ruleSet = ["network/member", "network/node"] := by
  have hall : ∀ r ∈ ruleSetsIn ruleSets, encrypted r.1 = true →
      readingRoles r.2 = [] ∨ readingRoles r.2 = ["network/member", "network/node"] := by
    decide
  exact hall _ (mem_ruleSetsIn hp h) he

theorem field_ref {path : List String} {ruleSet : List (String × Json)} (hp : TypePath path)
    (h : descend ruleSets path = some ruleSet) : (Json.field "$ref" ruleSet).isSome = false := by
  have hall : ∀ r ∈ ruleSetsIn ruleSets, (Json.field "$ref" r.2).isSome = false := by decide
  exact hall _ (mem_ruleSetsIn hp h)

theorem wellNamed_ruleSets : WellNamed ruleSets := by decide

theorem smallFields_definition : Json.SmallFields definition := by decide

/-- The owner can install the definition with any root key. -/
theorem exists_injected_definition (c : Primitives) (root : Bytes) : ∃ output published,
    Injected c root meshProtocolURI definition ruleSets output published :=
  exists_injected rfl (by decide) rfl wellNamed_ruleSets smallFields_definition root

end Meshd.Mesh.MeshProtocol
