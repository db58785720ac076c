import Meshd.Did.DhtFields

namespace Meshd.Did.Dht

open Meshd.Framework Strings

variable {p : Packages} {d : Document} {order : GoMap.Order (List String)}

/-! ### The records of a document -/

/-- The record of a key. -/
def entryName (key : String) : String := "_" ++ key ++ "._did."

def record (e : String × String) : Dns.TXTRecord := { name := ascii e.1, ttl, txt := [ascii e.2] }

theorem newResource_ok {name body : String} {r : Dns.TXTRecord} (h : newResource name body = .ok r) :
    r = record (name, body) := by
  rw [newResource, ite_error_eq_ok] at h
  obtain ⟨-, h⟩ := h
  cases h
  rfl

/-- The text of a method that can be written. -/
def methodData (p : Packages) (m : VerificationMethod) : String :=
  (marshalVerificationMethod p m).toOption.getD ""

theorem methodResources_ok {vmIDToK : GoMap String} {key : VerificationMethod → String}
    {vms : List VerificationMethod} {resources : List Dns.TXTRecord}
    (hkeys : ∀ m ∈ vms, vmIDToK.lookup m.id = some (key m))
    (h : methodResources p vmIDToK vms = .ok resources) :
    resources = vms.map (fun m => record (entryName (key m), methodData p m)) ∧
      ∀ m ∈ vms, marshalVerificationMethod p m = .ok (methodData p m) := by
  induction vms generalizing resources with
  | nil =>
    cases h
    simp
  | cons m vms ih =>
    obtain ⟨hkey, hkeys⟩ := List.forall_mem_cons.mp hkeys
    rw [methodResources, hkey] at h
    obtain ⟨buf, hbuf, h⟩ := bind_eq_ok.mp h
    obtain ⟨resource, hresource, h⟩ := bind_eq_ok.mp h
    obtain ⟨rest, hrest, h⟩ := bind_eq_ok.mp h
    cases h
    obtain ⟨rfl, hmarshal⟩ := ih hkeys hrest
    have hdata : methodData p m = buf := by rw [methodData, hbuf]; rfl
    rw [newResource_ok hresource, List.map_cons, hdata]
    exact ⟨rfl, List.forall_mem_cons.mpr ⟨hdata ▸ hbuf, hmarshal⟩⟩

theorem marshalService_eq (key : String) (s : Service) :
    marshalService key s = newResource (entryName key) (recordText s.fields) := by
  have htext : "id=" ++ s.id ++ ";t=" ++ s.type ++ ";se=" ++ ",".intercalate s.serviceEndpoint =
      recordText s.fields := by
    apply String.toList_inj.mp
    simp [recordText, Service.fields, property, String.toList_intercalate]
  rw [marshalService, htext]
  rfl

theorem serviceResources_ok {sToK : GoMap String} {key : Service → String}
    {services : List Service} {resources : List Dns.TXTRecord}
    (hkeys : ∀ s ∈ services, sToK.lookup s.id = some (key s))
    (h : serviceResources sToK services = .ok resources) :
    resources = services.map fun s => record (entryName (key s), recordText s.fields) := by
  induction services generalizing resources with
  | nil =>
    cases h
    rfl
  | cons s services ih =>
    obtain ⟨hkey, hkeys⟩ := List.forall_mem_cons.mp hkeys
    rw [serviceResources, hkey] at h
    obtain ⟨resource, hresource, h⟩ := bind_eq_ok.mp h
    obtain ⟨rest, hrest, h⟩ := bind_eq_ok.mp h
    cases h
    rw [marshalService_eq] at hresource
    rw [newResource_ok hresource, ih hkeys hrest, List.map_cons]

/-- The key of a text by its place. -/
def numberedKey (letter : String) (ids : List String) (id : String) : String :=
  letter ++ toString (ids.idxOf id)

namespace Document

/-- The entry of a method in the root record. -/
def entry (d : Document) (id : String) : String :=
  numberedKey "k" (pluckSort d.verificationMethod) id

def serviceEntry (d : Document) (id : String) : String :=
  numberedKey "s" (d.service.map (·.id)) id

def methodRecords (p : Packages) (d : Document) : List (String × String) :=
  d.verificationMethod.map fun m => (entryName (d.entry m.id), methodData p m)

def serviceRecords (d : Document) : List (String × String) :=
  d.service.map fun s => (entryName (d.serviceEntry s.id), recordText s.fields)

def records (p : Packages) (order : GoMap.Order (List String)) (d : Document) :
    List (String × String) :=
  ("_did." ++ trimPrefix d.id "did:dht:" ++ ".", rootRecord order d) ::
    (d.methodRecords p ++ d.serviceRecords)

end Document

theorem pluckSort_perm (vms : List VerificationMethod) : (pluckSort vms).Perm (vms.map (·.id)) :=
  List.perm_insertionSort _ _

theorem marshalDIDDocument_ok {payload : Bytes} (h : marshalDIDDocument p order d = .ok payload)
    (hmethods : (d.verificationMethod.map (·.id)).Nodup) (hservices : (d.service.map (·.id)).Nodup) :
    Dns.pack ((d.records p order).map record) = .ok payload ∧
      ∀ m ∈ d.verificationMethod, marshalVerificationMethod p m = .ok (methodData p m) := by
  obtain ⟨root, hroot, h⟩ := bind_eq_ok.mp h
  obtain ⟨methods, hms, h⟩ := bind_eq_ok.mp h
  obtain ⟨services, hss, h⟩ := bind_eq_ok.mp h
  have hperm := pluckSort_perm d.verificationMethod
  obtain ⟨rfl, hmarshal⟩ := methodResources_ok (p := p) (fun m hm =>
    GoMap.lookup_numbered (hperm.nodup_iff.mpr hmethods)
      (hperm.mem_iff.mpr (List.mem_map_of_mem hm))) hms
  have hserviceRecords := serviceResources_ok (fun s hs =>
    GoMap.lookup_numbered hservices (List.mem_map_of_mem hs)) hss
  rw [mapError_eq_ok, newResource_ok hroot, hserviceRecords] at h
  refine ⟨?_, hmarshal⟩
  rw [← h, Document.records, Document.methodRecords, Document.serviceRecords, List.map_cons,
    List.map_append, List.map_map, List.map_map]
  rfl

/-! ### The decoder on packed records -/

def answerOf (e : String × String) : Answer := { name := e.1, text := e.2 }

/-- The loop returns after one round for each record and one for the end. -/
theorem parseAnswers_records {records : List (String × String)} {parser : Dns.Parser}
    (hat : parser.At .answers records.length)
    (h : Dns.HasRecords parser.msg parser.off (records.map record))
    (hbytes : ∀ e ∈ records, (∀ c ∈ e.1.toList, c.toNat < 256) ∧ ∀ c ∈ e.2.toList, c.toNat < 256)
    (didRecord : Decoder) (fuel : Nat) :
    parseAnswers fuel parser didRecord =
      if fuel ≤ records.length then none
      else some (.ok ((records.map answerOf).foldl Decoder.add didRecord)) := by
  induction records generalizing parser didRecord fuel with
  | nil =>
    cases fuel with
    | zero => rfl
    | succ fuel => simp [parseAnswers, hat.answerHeader_done]
  | cons e records ih =>
    cases fuel with
    | zero => rfl
    | succ fuel =>
      obtain ⟨fin, ⟨hdr, body, hheader, hname, htype, htxt, rfl⟩, hrest⟩ := h
      obtain ⟨⟨hename, hetext⟩, hbytes⟩ := List.forall_mem_cons.mp hbytes
      have hstep := ih hat.afterBody hrest hbytes (didRecord.add (answerOf e)) fuel
      have hanswer : ({ name := ofBytes hdr.name, text := ofBytes (record e).txt.flatten } : Answer) =
          answerOf e := by
        rw [hname, answerOf, record, List.flatten_singleton, ofBytes_ascii hename,
          ofBytes_ascii hetext]
      rw [parseAnswers]
      simp only [hat.answerHeader_ok hheader, htype, ne_eq, not_true_eq_false, if_false,
        Dns.Parser.txtResource_ok htype htxt, hanswer]
      rw [hstep, List.length_cons, List.map_cons, List.foldl_cons]
      simp only [Nat.add_le_add_iff_right]

theorem parseDNSDID_pack {records : List (String × String)} {payload : Bytes}
    (h : Dns.pack (records.map record) = .ok payload)
    (hbytes : ∀ e ∈ records, (∀ c ∈ e.1.toList, c.toNat < 256) ∧ ∀ c ∈ e.2.toList, c.toNat < 256)
    (hnames : ∀ e ∈ records.tail, (ascii e.1).count Dns.dot ≤ 10) (fuel : Nat) :
    parseDNSDID fuel payload =
      if fuel ≤ records.length then none
      else some (.ok ((records.map answerOf).foldl Decoder.add {})) := by
  obtain ⟨hheader, hrecords⟩ := Dns.pack_ok h (by
    intro r hr
    rw [← List.map_tail] at hr
    obtain ⟨e, he, rfl⟩ := List.mem_map.mp hr
    exact hnames e he)
  rw [parseDNSDID_eq hheader rfl]
  refine parseAnswers_records ⟨rfl, rfl, ?_⟩ hrecords hbytes {} fuel
  simp [Dns.Header.count]

theorem foldl_add_records {rest : List (String × String)}
    (h : ∀ e ∈ rest, hasPrefix e.1 "_did" = false) (didRecord : Decoder) :
    (rest.map answerOf).foldl Decoder.add didRecord =
      { didRecord with records := rest.foldl (fun m e => m.insert e.1 e.2) didRecord.records } := by
  induction rest generalizing didRecord with
  | nil => rfl
  | cons e rest ih =>
    obtain ⟨hname, hrest⟩ := List.forall_mem_cons.mp h
    have hadd : didRecord.add (answerOf e) =
        { didRecord with records := didRecord.records.insert e.1 e.2 } := by
      rw [Decoder.add, answerOf, if_neg (by simp [hname])]
    rw [List.map_cons, List.foldl_cons, hadd, ih hrest, List.foldl_cons]

/-! ### The purposes of a key -/

namespace Document

/-- The methods that a document lists under a purpose. -/
def purpose (d : Document) : Purpose → List String
  | .assertion => d.assertionMethod
  | .authentication => d.authentication
  | .keyAgreement => d.keyAgreement
  | .capabilityDelegation => d.capabilityDelegation
  | .capabilityInvocation => d.capabilityInvocation

end Document

/-- The property of the root record for a purpose. -/
def Purpose.property : Purpose → String
  | .assertion => "asm"
  | .authentication => "auth"
  | .keyAgreement => "agm"
  | .capabilityDelegation => "del"
  | .capabilityInvocation => "inv"

theorem vmPurposeDNStoDID_eq_some {name : String} {purpose : Purpose} :
    vmPurposeDNStoDID name = some purpose ↔ name = purpose.property := by
  constructor
  · intro h
    rw [vmPurposeDNStoDID] at h
    split at h
    · next hname =>
      cases h
      exact hname
    · split at h
      · next hname =>
        cases h
        exact hname
      · split at h
        · next hname =>
          cases h
          exact hname
        · split at h
          · next hname =>
            cases h
            exact hname
          · split at h
            · next hname =>
              cases h
              exact hname
            · cases h
  · rintro rfl
    cases purpose <;> rfl

theorem rootProps_names (d : Document) : d.rootProps.map Prod.fst =
    ["v", "id", "vm", "auth", "asm", "agm", "inv", "del", "srv", "cnt", "aka"] := rfl

theorem rootProps_nodup (d : Document) : (d.rootProps.map Prod.fst).Nodup := by
  rw [rootProps_names]
  decide

/-- The values of the root record under the property of a purpose. -/
theorem mem_rootProps_purpose {purpose : Purpose} {values : List String} :
    (purpose.property, values) ∈ d.rootProps ↔
      values = methodsToKeys (d.purpose purpose) d.vmIDToK := by
  cases purpose <;> simp [Document.rootProps, Purpose.property, Document.purpose]

/-- The fields of the root record: the properties that have a value. -/
def rootFields (order : GoMap.Order (List String)) (d : Document) : List (String × List String) :=
  (order.visit (GoMap.ofList d.rootProps)).filter (·.2 ≠ [])

theorem mem_rootFields {e : String × List String} :
    e ∈ rootFields order d ↔ e ∈ d.rootProps ∧ e.2 ≠ [] := by
  rw [rootFields, List.mem_filter, GoMap.mem_visit_ofList order (rootProps_nodup d)]
  simp

theorem rootFields_nodup : ((rootFields order d).map Prod.fst).Nodup :=
  (GoMap.nodup_visit order _).sublist (List.filter_sublist.map Prod.fst)

/-- The relationships that the decoder finds in the root record. -/
def relationships (p : Packages) (order : GoMap.Order (List String)) (d : Document) :
    GoMap (List String) :=
  GoMap.gather String.join (p.propertyOrder.visit (GoMap.ofList (rootFields order d)))

theorem parseVerificationRelationships_root (h : PlainFields (rootFields order d)) :
    parseVerificationRelationships p (rootRecord order d) = .ok (relationships p order d) := by
  have hne : rootFields order d ≠ [] :=
    List.ne_nil_of_mem (mem_rootFields.mpr ⟨List.mem_cons_self, List.cons_ne_nil "1" []⟩)
  have hparse := parseTXTRecordData_properties h hne
  rw [rootFields] at hparse
  rw [parseVerificationRelationships, rootRecord, hparse, ok_bind]
  rfl

variable (p d order) in
theorem lookup_relationships {v : String} (hv : v ≠ "") :
    (∀ rel, (relationships p order d).lookup v = some rel → ∀ name, name ∈ rel ↔
      ∃ values, (name, values) ∈ d.rootProps ∧ String.join values = v) ∧
    ((relationships p order d).lookup v = none ↔ ∀ e ∈ d.rootProps, String.join e.2 ≠ v) := by
  have hmem {e : String × List String} :
      e ∈ (p.propertyOrder.visit (GoMap.ofList (rootFields order d))).filter (String.join ·.2 = v) ↔
        e ∈ d.rootProps ∧ String.join e.2 = v := by
    rw [List.mem_filter, GoMap.mem_visit_ofList _ rootFields_nodup, mem_rootFields, decide_eq_true_eq,
      and_assoc]
    refine and_congr_right fun _ => ⟨And.right, fun heq => ⟨?_, heq⟩⟩
    intro hempty
    rw [hempty] at heq
    exact hv heq.symm
  rw [relationships, GoMap.lookup_gather]
  constructor
  · intro rel hrel name
    split at hrel
    · cases hrel
    · cases hrel
      rw [List.mem_map]
      constructor
      · rintro ⟨e, he, rfl⟩
        exact ⟨e.2, hmem.mp he⟩
      · rintro ⟨values, hvalues⟩
        exact ⟨(name, values), hmem.mpr hvalues, rfl⟩
  · have hnil : (p.propertyOrder.visit (GoMap.ofList (rootFields order d))).filter
        (String.join ·.2 = v) = [] ↔ ∀ e ∈ d.rootProps, String.join e.2 ≠ v := by
      simp only [List.eq_nil_iff_forall_not_mem, hmem, not_and, ne_eq]
    rw [← hnil]
    split
    · next h => simp [h]
    · next h => simp [h]

/-! ### Entries -/

section Numbered

variable {letter id id' : String} {ids : List String}

theorem numberedKey_inj (hid : id ∈ ids) (h : numberedKey letter ids id = numberedKey letter ids id') :
    id = id' := by
  have hchars := congrArg String.toList h
  simp only [numberedKey, String.toList_append] at hchars
  have hnumber := String.toList_inj.mp (List.append_cancel_left hchars)
  exact (List.idxOf_inj hid).mp (toString_inj hnumber)

theorem numberedKey_plain (h : Plain letter) : Plain (numberedKey letter ids id) :=
  h.append (Plain.toString _)

theorem not_mem_numberedKey {c : Char} (h : c ∉ letter.toList) (hdigit : c.isDigit = false) :
    c ∉ (numberedKey letter ids id).toList := by
  rw [numberedKey, String.toList_append, List.mem_append, not_or]
  exact ⟨h, not_mem_toString hdigit⟩

end Numbered

theorem count_k_entry (id : String) : (d.entry id).toList.count 'k' = 1 := by
  rw [Document.entry, numberedKey, String.toList_append, List.count_append,
    List.count_eq_zero.mpr (not_mem_toString (by decide))]
  rfl

theorem entry_ne_empty (id : String) : d.entry id ≠ "" := by
  intro h
  have hcount := count_k_entry (d := d) id
  rw [h] at hcount
  cases hcount

/-- A list of entries that joins to an entry has only that one. -/
theorem join_entries_eq_entry {ids : List String} {id : String}
    (h : String.join (ids.map d.entry) = d.entry id) :
    ∃ id', ids = [id'] ∧ d.entry id' = d.entry id := by
  have hcount (ids : List String) :
      (String.join (ids.map d.entry)).toList.count 'k' = ids.length := by
    rw [String.toList_join]
    induction ids with
    | nil => rfl
    | cons id ids ih =>
      rw [List.map_cons, List.flatMap_cons, List.count_append, count_k_entry, ih, List.length_cons,
        Nat.add_comm]
  have hlength : ids.length = 1 := by rw [← hcount, h, count_k_entry]
  obtain ⟨id', rfl⟩ := List.length_eq_one_iff.mp hlength
  exact ⟨id', rfl, by simpa [String.join] using h⟩

theorem entry_inj {id id' : String} (hid : id ∈ d.verificationMethod.map (·.id))
    (h : d.entry id = d.entry id') : id = id' :=
  numberedKey_inj ((pluckSort_perm _).mem_iff.mpr hid) h

theorem entryID_entryName {key : String} (hdot : '.' ∉ key.toList) :
    Decoder.entryID (entryName key) = key := by
  have hchars : (entryName key).toList = ('_' :: key.toList) ++ '.' :: "_did.".toList := by
    simp [entryName]
  have hfree : '.' ∉ '_' :: key.toList := by simpa using hdot
  rw [Decoder.entryID, split, hchars, List.splitOn_append_cons_self_of_not_mem hfree]
  simp

theorem ascii_append (a b : String) : ascii (a ++ b) = ascii a ++ ascii b := by
  simp [ascii, latin1]

/-- The names of the entries have two labels. -/
theorem count_dot_entryName {key : String} (hbytes : ∀ c ∈ key.toList, c.toNat < 256)
    (hdot : '.' ∉ key.toList) : (ascii (entryName key)).count Dns.dot = 2 := by
  have hkey : Dns.dot ∉ ascii key := by
    intro hmem
    obtain ⟨c, hc, heq⟩ := List.mem_map.mp hmem
    have hvalue := congrArg UInt8.toNat heq
    rw [UInt8.toNat_ofNat', Nat.mod_eq_of_lt (hbytes c hc)] at hvalue
    exact hdot ((Char.toNat_inj.mp hvalue : c = '.') ▸ hc)
  rw [entryName, ascii_append, ascii_append, List.count_append, List.count_append,
    List.count_eq_zero.mpr hkey]
  decide

section Names

variable (id : String)

theorem hasPrefix_method : hasPrefix (entryName (d.entry id)) "_k" = true := by
  simp [hasPrefix, entryName, Document.entry, numberedKey]

theorem hasPrefix_service : hasPrefix (entryName (d.serviceEntry id)) "_k" = false ∧
    hasPrefix (entryName (d.serviceEntry id)) "_s" = true := by
  simp [hasPrefix, entryName, Document.serviceEntry, numberedKey, List.isPrefixOf]

theorem hasPrefix_root : hasPrefix (entryName (d.entry id)) "_did" = false ∧
    hasPrefix (entryName (d.serviceEntry id)) "_did" = false := by
  simp [hasPrefix, entryName, Document.entry, Document.serviceEntry, numberedKey, List.isPrefixOf]

end Names

/-! ### The document of the records -/

section Fold

variable {relationshipMap : GoMap (List String)} {document : Document}

theorem purpose_addVerificationMethod {method : VerificationMethod} {purposes : List Purpose}
    {purpose : Purpose} {id : String} :
    id ∈ (document.addVerificationMethod method purposes).purpose purpose ↔
      id ∈ document.purpose purpose ∨ (purpose ∈ purposes ∧ id = method.id) := by
  have hstep (document : Document) (added : Purpose) :
      id ∈ (Document.addPurpose method.id document added).purpose purpose ↔
        id ∈ document.purpose purpose ∨ (purpose = added ∧ id = method.id) := by
    cases added <;> cases purpose <;> simp [Document.addPurpose, Document.purpose]
  have hfold (document : Document) :
      id ∈ (purposes.foldl (Document.addPurpose method.id) document).purpose purpose ↔
        id ∈ document.purpose purpose ∨ (purpose ∈ purposes ∧ id = method.id) := by
    induction purposes generalizing document with
    | nil => simp
    | cons added purposes ih =>
      rw [List.foldl_cons, ih, hstep, List.mem_cons, or_and_right, or_assoc]
  exact hfold _

@[simp] theorem addVerificationMethod_lists (method : VerificationMethod) (purposes : List Purpose) :
    (document.addVerificationMethod method purposes).verificationMethod =
        document.verificationMethod ++ [method] ∧
      (document.addVerificationMethod method purposes).service = document.service := by
  have hfold (document : Document) :
      (purposes.foldl (Document.addPurpose method.id) document).verificationMethod =
          document.verificationMethod ∧
        (purposes.foldl (Document.addPurpose method.id) document).service = document.service := by
    induction purposes generalizing document with
    | nil => exact ⟨rfl, rfl⟩
    | cons added purposes ih =>
      rw [List.foldl_cons, (ih _).1, (ih _).2]
      cases added <;> exact ⟨rfl, rfl⟩
  exact hfold _

/-- What a record of a method gives: the method and its purposes. -/
def methodOf (p : Packages) (relationshipMap : GoMap (List String)) (did : String)
    (e : String × String) : Option (VerificationMethod × List Purpose) :=
  match unmarshalVerificationMethod p e.2 did, relationshipMap.lookup (Decoder.entryID e.1) with
  | .ok vMethod, some relationships => some (vMethod, relationships.filterMap vmPurposeDNStoDID)
  | _, _ => none

/-- The second document has what the first one has, and what the records give. -/
structure Gathered (p : Packages) (relationshipMap : GoMap (List String)) (did : String)
    (records : List (String × String)) (before after : Document) : Prop where
  methods : ∀ m, m ∈ after.verificationMethod ↔ m ∈ before.verificationMethod ∨
    ∃ e ∈ records, hasPrefix e.1 "_k" = true ∧ ∃ ps, methodOf p relationshipMap did e = some (m, ps)
  purposes : ∀ purpose id, id ∈ after.purpose purpose ↔ id ∈ before.purpose purpose ∨
    ∃ e ∈ records, hasPrefix e.1 "_k" = true ∧ ∃ m ps,
      methodOf p relationshipMap did e = some (m, ps) ∧ purpose ∈ ps ∧ id = m.id
  services : ∀ s, s ∈ after.service ↔ s ∈ before.service ∨
    ∃ e ∈ records, hasPrefix e.1 "_k" = false ∧ unmarshalService p e.2 = .ok s

theorem gathered_method {e : String × String} (hname : hasPrefix e.1 "_k" = true) :
    Gathered p relationshipMap document.id [e] document
      (Decoder.addRecord p relationshipMap document e.1 e.2) := by
  have hadd : Decoder.addRecord p relationshipMap document e.1 e.2 =
      ((methodOf p relationshipMap document.id e).map fun r =>
        document.addVerificationMethod r.1 r.2).getD document := by
    rw [Decoder.addRecord, if_pos hname, methodOf]
    cases unmarshalVerificationMethod p e.2 document.id with
    | error _ => rfl
    | ok m =>
      cases relationshipMap.lookup (Decoder.entryID e.1) with
      | none => rfl
      | some relationships => rfl
  rw [hadd]
  cases hmethod : methodOf p relationshipMap document.id e with
  | none => constructor <;> simp [hmethod, hname]
  | some r =>
    obtain ⟨m, ps⟩ := r
    constructor
    · intro m'
      simp [hmethod, hname, eq_comm (a := m)]
    · intro purpose id
      simp only [Option.map_some, Option.getD_some, purpose_addVerificationMethod]
      simp [hmethod, hname]
    · simp [hname]

theorem gathered_service {e : String × String} (hmethod : hasPrefix e.1 "_k" = false)
    (hname : hasPrefix e.1 "_s" = true) :
    Gathered p relationshipMap document.id [e] document
      (Decoder.addRecord p relationshipMap document e.1 e.2) := by
  rw [Decoder.addRecord, if_neg (by simp [hmethod]), if_pos hname]
  cases hservice : unmarshalService p e.2 with
  | error _ => constructor <;> simp [hmethod, hservice]
  | ok s =>
    constructor
    · simp [hmethod, Document.addService]
    · intro purpose id
      cases purpose <;> simp [hmethod, Document.addService, Document.purpose]
    · intro s'
      simp [hmethod, hservice, Document.addService, eq_comm (a := s)]

theorem Gathered.trans {did : String} {l l' : List (String × String)} {a b c : Document}
    (h : Gathered p relationshipMap did l a b) (h' : Gathered p relationshipMap did l' b c) :
    Gathered p relationshipMap did (l ++ l') a c := by
  constructor
  · intro m
    rw [h'.methods, h.methods, or_assoc]
    simp only [List.mem_append, or_and_right, exists_or]
  · intro purpose id
    rw [h'.purposes, h.purposes, or_assoc]
    simp only [List.mem_append, or_and_right, exists_or]
  · intro s
    rw [h'.services, h.services, or_assoc]
    simp only [List.mem_append, or_and_right, exists_or]

theorem gathered_foldl {records : List (String × String)}
    (hnames : ∀ e ∈ records, hasPrefix e.1 "_k" = true ∨
      (hasPrefix e.1 "_k" = false ∧ hasPrefix e.1 "_s" = true)) (document : Document) :
    Gathered p relationshipMap document.id records document
      (records.foldl (fun document e => Decoder.addRecord p relationshipMap document e.1 e.2)
        document) := by
  induction records generalizing document with
  | nil => constructor <;> simp
  | cons e records ih =>
    obtain ⟨hname, hnames⟩ := List.forall_mem_cons.mp hnames
    have hfirst : Gathered p relationshipMap document.id [e] document
        (Decoder.addRecord p relationshipMap document e.1 e.2) := by
      obtain hmethod | ⟨hother, hservice⟩ := hname
      · exact gathered_method hmethod
      · exact gathered_service hother hservice
    have hrest := ih hnames (Decoder.addRecord p relationshipMap document e.1 e.2)
    rw [Decoder.id_addRecord] at hrest
    exact hfirst.trans hrest

end Fold

theorem Gathered.of_mem_iff {relationshipMap : GoMap (List String)} {did : String}
    {l l' : List (String × String)} {a b : Document} (h : Gathered p relationshipMap did l a b)
    (hmem : ∀ e, e ∈ l ↔ e ∈ l') : Gathered p relationshipMap did l' a b := by
  constructor
  · simpa only [hmem] using h.methods
  · simpa only [hmem] using h.purposes
  · simpa only [hmem] using h.services

/-! ### Documents that can be written -/

namespace Document

/-- The texts of a document that the encoder writes. -/
def texts (d : Document) : List String :=
  d.id :: (d.controller ++ d.alsoKnownAs ++
    d.verificationMethod.flatMap (fun m => [m.id, m.controller]) ++
    d.service.flatMap fun s => s.id :: s.type :: s.serviceEndpoint)

/-- A DHT document with its own methods, each under a fragment of its own, purposes of these methods,
services that have an endpoint, and no separators in its texts. -/
structure Writable (p : Packages) (d : Document) : Prop where
  did : ∃ x, d.id = "did:dht:" ++ x
  methods : ∀ m ∈ d.verificationMethod, ∃ fragment, fragment ≠ "" ∧ m.id = d.id ++ "#" ++ fragment
  distinct : (d.verificationMethod.map (·.id)).Nodup
  listed : ∀ purpose, (d.purpose purpose).Nodup ∧
    ∀ id ∈ d.purpose purpose, id ∈ d.verificationMethod.map (·.id)
  services : (d.service.map (·.id)).Nodup
  endpoints : ∀ s ∈ d.service, ∃ e ∈ s.serviceEndpoint, p.parseRequestURI e = true
  plain : ∀ text ∈ d.texts, Plain text

variable {m : VerificationMethod} {s : Service}

theorem Writable.plain_method (hd : d.Writable p) (hm : m ∈ d.verificationMethod) :
    Plain m.id ∧ Plain m.controller := by
  have hmem (text : String) (h : text ∈ [m.id, m.controller]) : text ∈ d.texts := by
    have hflat : text ∈ d.verificationMethod.flatMap (fun m => [m.id, m.controller]) :=
      List.mem_flatMap.mpr ⟨m, hm, h⟩
    simp only [texts, List.mem_cons, List.mem_append]
    exact .inr (.inl (.inr hflat))
  exact ⟨hd.plain _ (hmem _ (by simp)), hd.plain _ (hmem _ (by simp))⟩

theorem Writable.plain_service (hd : d.Writable p) (hs : s ∈ d.service) :
    Plain s.id ∧ Plain s.type ∧ ∀ e ∈ s.serviceEndpoint, Plain e := by
  have hmem (text : String) (h : text ∈ s.id :: s.type :: s.serviceEndpoint) : text ∈ d.texts := by
    have hflat : text ∈ d.service.flatMap fun s => s.id :: s.type :: s.serviceEndpoint :=
      List.mem_flatMap.mpr ⟨s, hs, h⟩
    simp only [texts, List.mem_cons, List.mem_append]
    exact .inr (.inr hflat)
  exact ⟨hd.plain _ (hmem _ (by simp)), hd.plain _ (hmem _ (by simp)),
    fun e he => hd.plain _ (hmem _ (by simp [he]))⟩

theorem Writable.plain_lists (hd : d.Writable p) :
    Plain d.id ∧ (∀ text ∈ d.controller, Plain text) ∧ ∀ text ∈ d.alsoKnownAs, Plain text := by
  refine ⟨hd.plain _ (by simp [texts]), fun text htext => hd.plain _ ?_,
    fun text htext => hd.plain _ ?_⟩
  · simp only [texts, List.mem_cons, List.mem_append]
    exact .inr (.inl (.inl (.inl htext)))
  · simp only [texts, List.mem_cons, List.mem_append]
    exact .inr (.inl (.inl (.inr htext)))

theorem Writable.methodsToKeys_eq (hd : d.Writable p) {ids : List String}
    (hids : ∀ id ∈ ids, id ∈ d.verificationMethod.map (·.id)) :
    methodsToKeys ids d.vmIDToK = ids.map d.entry := by
  have hperm := pluckSort_perm d.verificationMethod
  rw [methodsToKeys, ← List.filterMap_eq_map]
  apply List.filterMap_congr
  intro id hid
  exact GoMap.lookup_numbered (hperm.nodup_iff.mpr hd.distinct) (hperm.mem_iff.mpr (hids id hid))

end Document

theorem plain_numbered {letter : String} (hletter : Plain letter) {l : List α} :
    ∀ v ∈ l.zipIdx.map (fun e => letter ++ toString e.2), Plain v := by
  intro v hv
  obtain ⟨e, -, rfl⟩ := List.mem_map.mp hv
  exact hletter.append (Plain.toString _)

theorem plainFields_root (hd : d.Writable p) : PlainFields (rootFields order d) := by
  obtain ⟨hid, hcontroller, haka⟩ := hd.plain_lists
  have hpurpose (purpose : Purpose) :
      ∀ v ∈ methodsToKeys (d.purpose purpose) d.vmIDToK, Plain v := by
    rw [hd.methodsToKeys_eq (hd.listed purpose).2]
    intro v hv
    obtain ⟨id, -, rfl⟩ := List.mem_map.mp hv
    exact numberedKey_plain (by decide)
  refine ⟨rootFields_nodup, fun e he => ?_⟩
  obtain ⟨he, hne⟩ := mem_rootFields.mp he
  have hname : Plain e.1 := by
    have hnames : ∀ name ∈ d.rootProps.map Prod.fst, Plain name := by
      rw [rootProps_names]
      decide
    exact hnames e.1 (List.mem_map_of_mem he)
  refine ⟨hname, hne, ?_⟩
  simp only [Document.rootProps, List.mem_cons, List.not_mem_nil, or_false] at he
  obtain rfl | rfl | rfl | rfl | rfl | rfl | rfl | rfl | rfl | rfl | rfl := he
  · decide
  · simpa using hid
  · exact plain_numbered (by decide)
  · exact hpurpose .authentication
  · exact hpurpose .assertion
  · exact hpurpose .keyAgreement
  · exact hpurpose .capabilityInvocation
  · exact hpurpose .capabilityDelegation
  · exact plain_numbered (by decide)
  · exact hcontroller
  · exact haka

theorem recordText_bytes {fields : List (String × List String)} (h : PlainFields fields) :
    ∀ c ∈ (recordText fields).toList, c.toNat < 256 := by
  intro c hc
  obtain rfl | ⟨text, htext, hc⟩ := mem_toList_intercalate ';' hc
  · decide
  · obtain ⟨e, he, rfl⟩ := List.mem_map.mp htext
    obtain ⟨hname, -, hvalues⟩ := h.2 e he
    exact (property_free hname hvalues hc).1

theorem Plain.bytes {s : String} (h : Plain s) : ∀ c ∈ s.toList, c.toNat < 256 :=
  fun c hc => (h c hc).1

theorem entryName_inj {key key' : String} (h : entryName key = entryName key') : key = key' := by
  have hchars := congrArg String.toList h
  simp only [entryName, String.toList_append] at hchars
  exact String.toList_inj.mp (List.append_cancel_left (List.append_cancel_right hchars))

theorem plain_entryName {key : String} (h : Plain key) : Plain (entryName key) :=
  (Plain.append (by decide) h).append (by decide)

theorem nodup_entryNames {letter : String} {ids ids' : List String} (hnodup : ids.Nodup)
    (hsub : ∀ id ∈ ids, id ∈ ids') :
    (ids.map fun id => entryName (numberedKey letter ids' id)).Nodup :=
  hnodup.map_on fun _ hid _ _ h => numberedKey_inj (hsub _ hid) (entryName_inj h)

/-- The records of the methods and services have different names. -/
theorem records_nodup (hd : d.Writable p) :
    ((d.methodRecords p ++ d.serviceRecords).map Prod.fst).Nodup := by
  have hmethods : (d.methodRecords p).map Prod.fst =
      (d.verificationMethod.map (·.id)).map fun id => entryName (d.entry id) := by
    simp [Document.methodRecords]
  have hservices : d.serviceRecords.map Prod.fst =
      (d.service.map (·.id)).map fun id => entryName (d.serviceEntry id) := by
    simp [Document.serviceRecords]
  rw [List.map_append, hmethods, hservices, List.nodup_append]
  refine ⟨nodup_entryNames hd.distinct fun id hid => (pluckSort_perm _).mem_iff.mpr hid,
    nodup_entryNames hd.services fun _ hid => hid, ?_⟩
  intro name hname name' hname' heq
  obtain ⟨id, -, rfl⟩ := List.mem_map.mp hname
  obtain ⟨id', -, rfl⟩ := List.mem_map.mp hname'
  have hmethod := hasPrefix_method (d := d) id
  rw [heq, (hasPrefix_service id').1] at hmethod
  cases hmethod

/-! ### The decoded document -/

theorem rootRecord_ne_empty (hd : d.Writable p) : rootRecord order d ≠ "" := by
  intro hempty
  have hwf : WellFormed (rootRecord order d) := by
    rw [← parseVerificationRelationships_ok_iff p]
    exact ⟨_, parseVerificationRelationships_root (plainFields_root hd)⟩
  rw [hempty] at hwf
  exact absurd hwf (by decide)

/-- The texts of the records are byte strings. -/
theorem records_bytes (hd : d.Writable p)
    (hmarshal : ∀ m ∈ d.verificationMethod, marshalVerificationMethod p m = .ok (methodData p m)) :
    ∀ e ∈ d.records p order,
      (∀ c ∈ e.1.toList, c.toNat < 256) ∧ ∀ c ∈ e.2.toList, c.toNat < 256 := by
  obtain ⟨x, hx⟩ := hd.did
  have hplain : Plain x := fun c hc => hd.plain_lists.1 c (by
    rw [hx, String.toList_append]
    exact List.mem_append_right _ hc)
  rw [Document.records, List.forall_mem_cons]
  refine ⟨⟨?_, recordText_bytes (plainFields_root hd)⟩, fun e he => ?_⟩
  · rw [hx, trimPrefix_append]
    exact ((Plain.append (by decide) hplain).append (by decide)).bytes
  · obtain he | he := List.mem_append.mp he
    · obtain ⟨m, hm, rfl⟩ := List.mem_map.mp he
      obtain ⟨hid, hcontroller⟩ := hd.plain_method hm
      obtain ⟨alg, keyBytes, t, -, ht, htext⟩ := marshalVerificationMethod_ok (hmarshal m hm)
      refine ⟨(plain_entryName (numberedKey_plain (by decide))).bytes, ?_⟩
      rw [htext]
      exact recordText_bytes (plainFields_method hid hcontroller (dhtIndexToAlg_algToDhtIndex ht).2)
    · obtain ⟨s, hs, rfl⟩ := List.mem_map.mp he
      obtain ⟨hid, htype, hendpoints⟩ := hd.plain_service hs
      obtain ⟨endpoint, hendpoint, -⟩ := hd.endpoints s hs
      exact ⟨(plain_entryName (numberedKey_plain (by decide))).bytes, recordText_bytes
        (plainFields_service hid htype hendpoints (List.ne_nil_of_mem hendpoint))⟩

theorem records_names (e : String × String) (he : e ∈ d.methodRecords p ++ d.serviceRecords) :
    (ascii e.1).count Dns.dot ≤ 10 ∧ hasPrefix e.1 "_did" = false ∧
      (hasPrefix e.1 "_k" = true ∨ (hasPrefix e.1 "_k" = false ∧ hasPrefix e.1 "_s" = true)) := by
  obtain he | he := List.mem_append.mp he
  · obtain ⟨m, -, rfl⟩ := List.mem_map.mp he
    have hcount : (ascii (entryName (d.entry m.id))).count Dns.dot = 2 :=
      count_dot_entryName (numberedKey_plain (by decide)).bytes
        (not_mem_numberedKey (by decide) (by decide))
    exact ⟨by rw [hcount]; decide, (hasPrefix_root m.id).1, .inl (hasPrefix_method m.id)⟩
  · obtain ⟨s, -, rfl⟩ := List.mem_map.mp he
    have hcount : (ascii (entryName (d.serviceEntry s.id))).count Dns.dot = 2 :=
      count_dot_entryName (numberedKey_plain (by decide)).bytes
        (not_mem_numberedKey (by decide) (by decide))
    exact ⟨by rw [hcount]; decide, (hasPrefix_root s.id).2, .inr (hasPrefix_service s.id)⟩

/-- The decoder returns a document with what the records of the methods and services give. -/
theorem unmarshalDIDDocument_marshal {payload : Bytes} (hd : d.Writable p)
    (h : marshalDIDDocument p order d = .ok payload) :
    ∃ d', (∀ fuel, unmarshalDIDDocument p fuel payload =
        if fuel ≤ (d.records p order).length then none else some (.ok d')) ∧
      d'.id = d.id ∧ Gathered p (relationships p order d) d.id
        (d.methodRecords p ++ d.serviceRecords) { id := d.id } d' := by
  obtain ⟨hpack, hmarshal⟩ := marshalDIDDocument_ok h hd.distinct hd.services
  have hnames := records_names (p := p) (d := d)
  have hparse := parseDNSDID_pack hpack (records_bytes hd hmarshal) fun e he => (hnames e he).1
  obtain ⟨x, hx⟩ := hd.did
  have hroot : Decoder.add {} (answerOf ("_did." ++ x ++ ".", rootRecord order d)) =
      { id := x, rootRecord := rootRecord order d } := by
    have hname : hasPrefix ("_did." ++ x ++ ".") "_did" = true :=
      hasPrefix_iff.mpr ⟨"." ++ x ++ ".", String.toList_inj.mp (by simp)⟩
    rw [answerOf, Decoder.add, if_pos hname, Decoder.rootID, String.append_assoc, trimPrefix_append,
      trimSuffix_append]
  have hdecoder : ((d.records p order).map answerOf).foldl Decoder.add {} =
      { id := x, rootRecord := rootRecord order d,
        records := GoMap.ofList (d.methodRecords p ++ d.serviceRecords) } := by
    rw [Document.records, hx, trimPrefix_append, List.map_cons, List.foldl_cons, hroot,
      foldl_add_records fun e he => (hnames e he).2.1]
    rfl
  -- the records are visited in some order, of which what is gathered does not depend
  let visited := p.recordOrder.visit (GoMap.ofList (d.methodRecords p ++ d.serviceRecords))
  have hmem (e : String × String) : e ∈ visited ↔ e ∈ d.methodRecords p ++ d.serviceRecords :=
    GoMap.mem_visit_ofList p.recordOrder (records_nodup hd)
  have hgathered : Gathered p (relationships p order d) d.id visited { id := d.id } _ :=
    gathered_foldl (fun e he => (hnames e ((hmem e).mp he)).2.2) { id := d.id }
  refine ⟨_, fun fuel => ?_,
    Decoder.id_foldl_addRecord (relationships p order d) visited { id := d.id },
    hgathered.of_mem_iff hmem⟩
  have hdocument : Decoder.didDocument p
      { id := x, rootRecord := rootRecord order d,
        records := GoMap.ofList (d.methodRecords p ++ d.serviceRecords) } =
      .ok (visited.foldl (fun document e => Decoder.addRecord p (relationships p order d) document
        e.1 e.2) { id := d.id }) := by
    rw [Decoder.didDocument, if_neg (rootRecord_ne_empty hd), parseVerificationRelationships_root
      (plainFields_root hd), hx]
    rfl
  rw [unmarshalDIDDocument, hparse fuel, hdecoder]
  split
  · rfl
  · rw [Option.map_some, ok_bind, hdocument]

/-! ### Which methods are reached -/

section Reached

variable {m m' : VerificationMethod}

theorem join_methodsToKeys_iff (hd : d.Writable p) {purpose : Purpose} :
    String.join (methodsToKeys (d.purpose purpose) d.vmIDToK) = d.entry m.id ↔
      d.purpose purpose = [m.id] := by
  have hlisted := (hd.listed purpose).2
  rw [hd.methodsToKeys_eq hlisted]
  constructor
  · intro h
    obtain ⟨id, hids, hentry⟩ := join_entries_eq_entry h
    rw [hids] at hlisted ⊢
    rw [entry_inj (hlisted id List.mem_cons_self) hentry]
  · intro h
    rw [h]
    simp [String.join]

theorem vmBEP44Keys_eq (hd : d.Writable p) :
    d.vmBEP44Keys = (pluckSort d.verificationMethod).map d.entry := by
  have hnodup := (pluckSort_perm d.verificationMethod).nodup_iff.mpr hd.distinct
  rw [Document.vmBEP44Keys]
  conv_rhs => rw [← List.zipIdx_map_fst 0 (pluckSort d.verificationMethod), List.map_map]
  apply List.map_congr_left
  intro e he
  have hget := List.mem_zipIdx_iff_getElem?.mp he
  obtain ⟨hlt, hget⟩ := List.getElem?_eq_some_iff.mp hget
  rw [Function.comp, Document.entry, numberedKey, ← hget, hnodup.idxOf_getElem]

theorem join_vmBEP44Keys_iff (hd : d.Writable p) (hm : m ∈ d.verificationMethod) :
    String.join d.vmBEP44Keys = d.entry m.id ↔ d.verificationMethod.length = 1 := by
  have hlength : (pluckSort d.verificationMethod).length = d.verificationMethod.length := by
    rw [(pluckSort_perm _).length_eq, List.length_map]
  rw [vmBEP44Keys_eq hd, ← hlength]
  constructor
  · intro h
    obtain ⟨id, hids, -⟩ := join_entries_eq_entry h
    rw [hids]
    rfl
  · intro h
    obtain ⟨id, hids⟩ := List.length_eq_one_iff.mp h
    have hmem : m.id ∈ pluckSort d.verificationMethod :=
      (pluckSort_perm _).mem_iff.mpr (List.mem_map_of_mem hm)
    rw [hids] at hmem ⊢
    rw [List.mem_singleton.mp hmem]
    simp [String.join]

/-- No service key, no number and no DID joins to the entry of a method. -/
theorem join_other_ne (hd : d.Writable p) (id : String) :
    String.join d.sKeys ≠ d.entry id ∧ String.join ["1"] ≠ d.entry id ∧
      String.join [d.id] ≠ d.entry id := by
  have hk : 'k' ∈ (d.entry id).toList := by
    rw [← List.count_pos_iff, count_k_entry]
    decide
  obtain ⟨x, hx⟩ := hd.did
  refine ⟨?_, ?_, ?_⟩
  · intro h
    rw [← h, String.toList_join] at hk
    obtain ⟨key, hkey, hk⟩ := List.mem_flatMap.mp hk
    obtain ⟨e, -, rfl⟩ := List.mem_map.mp hkey
    rw [String.toList_append, List.mem_append] at hk
    obtain hk | hk := hk
    · exact absurd hk (by decide)
    · exact not_mem_toString (by decide) hk
  · intro h
    rw [← h] at hk
    exact absurd hk (by decide)
  · intro h
    have hhead := congrArg (fun s : String => s.toList.head?) h
    simp [hx, String.join, Document.entry, numberedKey] at hhead

/-- What makes the decoder keep a method: its entry is the whole value of a property. -/
def Document.Reached (d : Document) (m : VerificationMethod) : Prop :=
  d.verificationMethod.length = 1 ∨ (∃ purpose, d.purpose purpose = [m.id]) ∨
    String.join d.controller = d.entry m.id ∨ String.join d.alsoKnownAs = d.entry m.id

theorem reached_iff (hd : d.Writable p) (hm : m ∈ d.verificationMethod) :
    (∃ e ∈ d.rootProps, String.join e.2 = d.entry m.id) ↔ d.Reached m := by
  obtain ⟨hservices, hversion, hid⟩ := join_other_ne hd m.id
  constructor
  · rintro ⟨e, he, hjoin⟩
    simp only [Document.rootProps, List.mem_cons, List.not_mem_nil, or_false] at he
    obtain rfl | rfl | rfl | rfl | rfl | rfl | rfl | rfl | rfl | rfl | rfl := he
    · exact absurd hjoin hversion
    · exact absurd hjoin hid
    · exact .inl ((join_vmBEP44Keys_iff hd hm).mp hjoin)
    · exact .inr (.inl ⟨.authentication, (join_methodsToKeys_iff hd).mp hjoin⟩)
    · exact .inr (.inl ⟨.assertion, (join_methodsToKeys_iff hd).mp hjoin⟩)
    · exact .inr (.inl ⟨.keyAgreement, (join_methodsToKeys_iff hd).mp hjoin⟩)
    · exact .inr (.inl ⟨.capabilityInvocation, (join_methodsToKeys_iff hd).mp hjoin⟩)
    · exact .inr (.inl ⟨.capabilityDelegation, (join_methodsToKeys_iff hd).mp hjoin⟩)
    · exact absurd hjoin hservices
    · exact .inr (.inr (.inl hjoin))
    · exact .inr (.inr (.inr hjoin))
  · rintro (hone | ⟨purpose, hpurpose⟩ | hcontroller | haka)
    · exact ⟨("vm", d.vmBEP44Keys), by simp [Document.rootProps], (join_vmBEP44Keys_iff hd hm).mpr hone⟩
    · exact ⟨(purpose.property, _), mem_rootProps_purpose.mpr rfl,
        (join_methodsToKeys_iff hd).mpr hpurpose⟩
    · exact ⟨("cnt", d.controller), by simp [Document.rootProps], hcontroller⟩
    · exact ⟨("aka", d.alsoKnownAs), by simp [Document.rootProps], haka⟩

theorem mem_methodRecords_of_name {e : String × String}
    (he : e ∈ d.methodRecords p ++ d.serviceRecords) (hname : hasPrefix e.1 "_k" = true) :
    ∃ m ∈ d.verificationMethod, (entryName (d.entry m.id), methodData p m) = e := by
  obtain he | he := List.mem_append.mp he
  · exact List.mem_map.mp he
  · obtain ⟨s, -, rfl⟩ := List.mem_map.mp he
    rw [(hasPrefix_service s.id).1] at hname
    cases hname

theorem mem_serviceRecords_of_name {e : String × String}
    (he : e ∈ d.methodRecords p ++ d.serviceRecords) (hname : hasPrefix e.1 "_k" = false) :
    ∃ s ∈ d.service, (entryName (d.serviceEntry s.id), recordText s.fields) = e := by
  obtain he | he := List.mem_append.mp he
  · obtain ⟨m, -, rfl⟩ := List.mem_map.mp he
    rw [hasPrefix_method m.id] at hname
    cases hname
  · exact List.mem_map.mp he

variable (order) in
/-- The decoder looks the entry of a method up, and finds the purposes that list this method only. -/
theorem lookup_entry (hd : d.Writable p) (hm : m ∈ d.verificationMethod) :
    ((∃ rel, (relationships p order d).lookup (d.entry m.id) = some rel) ↔ d.Reached m) ∧
      ∀ rel, (relationships p order d).lookup (d.entry m.id) = some rel →
        ∀ purpose, purpose ∈ rel.filterMap vmPurposeDNStoDID ↔ d.purpose purpose = [m.id] := by
  obtain ⟨hnames, hnone⟩ := lookup_relationships p d order (entry_ne_empty m.id)
  constructor
  · rw [← reached_iff hd hm]
    have hsome : (∃ rel, (relationships p order d).lookup (d.entry m.id) = some rel) ↔
        (relationships p order d).lookup (d.entry m.id) ≠ none := Option.ne_none_iff_exists'.symm
    rw [hsome, ne_eq, hnone]
    simp only [not_forall, ne_eq, not_not, exists_prop]
  · intro rel hrel purpose
    rw [List.mem_filterMap]
    simp only [vmPurposeDNStoDID_eq_some, exists_eq_right, hnames rel hrel, mem_rootProps_purpose,
      exists_eq_left, join_methodsToKeys_iff hd]

/-- The method that the record of `m` gives, and under which purposes. -/
theorem methodOf_record (hd : d.Writable p) (hm : m ∈ d.verificationMethod) {ps : List Purpose}
    (h : methodOf p (relationships p order d) d.id
      (entryName (d.entry m.id), methodData p m) = some (m', ps)) :
    d.Reached m ∧ unmarshalVerificationMethod p (methodData p m) d.id = .ok m' ∧
      ∀ purpose, purpose ∈ ps ↔ d.purpose purpose = [m.id] := by
  have hentry : Decoder.entryID (entryName (d.entry m.id)) = d.entry m.id :=
    entryID_entryName (not_mem_numberedKey (by decide) (by decide))
  obtain ⟨hreached, hpurposes⟩ := lookup_entry order hd hm
  rw [methodOf, hentry] at h
  cases hdata : unmarshalVerificationMethod p (methodData p m) d.id with
  | error e => simp [hdata] at h
  | ok decoded =>
    cases hrel : (relationships p order d).lookup (d.entry m.id) with
    | none => simp [hdata, hrel] at h
    | some rel =>
      simp only [hdata, hrel] at h
      cases h
      exact ⟨hreached.mp ⟨rel, hrel⟩, rfl, hpurposes rel hrel⟩

variable (order) in
theorem exists_methodOf_record (hd : d.Writable p) (hm : m ∈ d.verificationMethod)
    (hreached : d.Reached m) (h : unmarshalVerificationMethod p (methodData p m) d.id = .ok m') :
    ∃ ps, methodOf p (relationships p order d) d.id
      (entryName (d.entry m.id), methodData p m) = some (m', ps) := by
  have hentry : Decoder.entryID (entryName (d.entry m.id)) = d.entry m.id :=
    entryID_entryName (not_mem_numberedKey (by decide) (by decide))
  obtain ⟨rel, hrel⟩ := (lookup_entry order hd hm).1.mpr hreached
  exact ⟨rel.filterMap vmPurposeDNStoDID, by rw [methodOf, hentry, h, hrel]⟩

variable {d' : Document}

theorem mem_decoded_methods (hd : d.Writable p) (hgathered : Gathered p (relationships p order d) d.id
      (d.methodRecords p ++ d.serviceRecords) { id := d.id } d') :
    m' ∈ d'.verificationMethod ↔ ∃ m ∈ d.verificationMethod, d.Reached m ∧
      unmarshalVerificationMethod p (methodData p m) d.id = .ok m' := by
  rw [hgathered.methods]
  constructor
  · rintro (hempty | ⟨e, he, hname, ps, hmethod⟩)
    · cases hempty
    · obtain ⟨m, hm, rfl⟩ := mem_methodRecords_of_name he hname
      obtain ⟨hreached, hread, -⟩ := methodOf_record hd hm hmethod
      exact ⟨m, hm, hreached, hread⟩
  · rintro ⟨m, hm, hreached, hread⟩
    exact .inr ⟨_, List.mem_append_left _ (List.mem_map_of_mem hm), hasPrefix_method m.id,
      exists_methodOf_record order hd hm hreached hread⟩

theorem mem_decoded_purpose (hd : d.Writable p) (hgathered : Gathered p (relationships p order d) d.id
      (d.methodRecords p ++ d.serviceRecords) { id := d.id } d') {purpose : Purpose} {id : String} :
    id ∈ d'.purpose purpose ↔ ∃ m ∈ d.verificationMethod, d.purpose purpose = [m.id] ∧
      ∃ m', unmarshalVerificationMethod p (methodData p m) d.id = .ok m' ∧ id = m'.id := by
  rw [hgathered.purposes]
  constructor
  · rintro (hempty | ⟨e, he, hname, m', ps, hmethod, hpurpose, rfl⟩)
    · cases purpose <;> cases hempty
    · obtain ⟨m, hm, rfl⟩ := mem_methodRecords_of_name he hname
      obtain ⟨-, hread, hpurposes⟩ := methodOf_record hd hm hmethod
      exact ⟨m, hm, (hpurposes purpose).mp hpurpose, m', hread, rfl⟩
  · rintro ⟨m, hm, hpurpose, m', hread, rfl⟩
    obtain ⟨ps, hmethod⟩ :=
      exists_methodOf_record order hd hm (.inr (.inl ⟨purpose, hpurpose⟩)) hread
    obtain ⟨-, -, hpurposes⟩ := methodOf_record hd hm hmethod
    exact .inr ⟨_, List.mem_append_left _ (List.mem_map_of_mem hm), hasPrefix_method m.id, m', ps,
      hmethod, (hpurposes purpose).mpr hpurpose, rfl⟩

theorem mem_decoded_services (hd : d.Writable p) (hgathered : Gathered p (relationships p order d) d.id
      (d.methodRecords p ++ d.serviceRecords) { id := d.id } d') {s : Service} :
    s ∈ d'.service ↔ s ∈ d.service ∧ ∀ e ∈ s.serviceEndpoint, p.parseRequestURI e = true := by
  have hread {s s' : Service} (hs : s ∈ d.service) : unmarshalService p (recordText s.fields) = .ok s' ↔
      (∀ e ∈ s.serviceEndpoint, p.parseRequestURI e = true) ∧ s' = s := by
    obtain ⟨hid, htype, hendpoints⟩ := hd.plain_service hs
    obtain ⟨endpoint, hendpoint, -⟩ := hd.endpoints s hs
    exact unmarshalService_fields hid htype hendpoints (List.ne_nil_of_mem hendpoint)
  rw [hgathered.services]
  constructor
  · rintro (hempty | ⟨e, he, hname, hservice⟩)
    · cases hempty
    · obtain ⟨s', hs', rfl⟩ := mem_serviceRecords_of_name he hname
      obtain ⟨hvalid, rfl⟩ := (hread hs').mp hservice
      exact ⟨hs', hvalid⟩
  · rintro ⟨hs, hvalid⟩
    exact .inr ⟨_, List.mem_append_right _ (List.mem_map_of_mem hs), (hasPrefix_service s.id).1,
      (hread hs).mpr ⟨hvalid, rfl⟩⟩

end Reached

end Meshd.Did.Dht
