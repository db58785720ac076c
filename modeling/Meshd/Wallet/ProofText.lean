import Meshd.Wallet.Proofs
import Mathlib.Data.Finset.Dedup
import Mathlib.Data.Finset.Empty

namespace Meshd.Wallet

open Meshd.Framework Meshd.Did

/-! The fields that a message is about can be read from it, although its lines are not escaped. This
rests on the labels and on the texts that the DID parser accepts. -/

theorem map_fieldLine_inj {fields fields' : List (String × Bytes)}
    (hlabels : fields.map Prod.fst = fields'.map Prod.fst)
    (hlines : fields.map fieldLine = fields'.map fieldLine) : fields = fields' := by
  induction fields generalizing fields' with
  | nil => exact (List.map_eq_nil_iff.mp hlabels.symm).symm
  | cons f fields ih =>
    cases fields' with
    | nil => cases hlabels
    | cons f' fields' =>
      simp only [List.map_cons, List.cons.injEq, fieldLine] at hlabels hlines
      obtain ⟨hlabel, hlabels⟩ := hlabels
      obtain ⟨hline, hlines⟩ := hlines
      rw [hlabel] at hline
      rw [ih hlabels hlines, Prod.ext hlabel (List.append_cancel_left hline)]

/-- The first piece of a labelled line begins with its label. -/
theorem head_ne_of_splitOn {field : String × Bytes} {piece : Bytes} {pieces : List Bytes} {b : UInt8}
    (hfree : newline ∉ ascii field.1) (hlabel : (ascii field.1).head?.any (· ≠ b) = true)
    (h : (fieldLine field).splitOn newline = piece :: pieces) : piece.head? ≠ some b := by
  obtain ⟨first, rest, -, hsplit⟩ := splitOn_append hfree field.2
  rw [fieldLine, hsplit] at h
  obtain ⟨rfl, -⟩ := List.cons.inj h
  generalize ascii field.1 = label at hlabel
  cases label with
  | nil => cases hlabel
  | cons c label => simpa using hlabel

/-- The first line of a message and its labels. -/
structure ProofForm where
  header : String
  first : String
  rest : List String
deriving DecidableEq

/-- There is no newline in it, and the label after the place of the delegate does not begin with the
letter of the delegate's label. -/
def ProofForm.Labelled (form : ProofForm) : Prop :=
  newline ∉ ascii form.header ∧ newline ∉ ascii form.first ∧
    (∀ label ∈ form.rest, newline ∉ ascii label) ∧
    (form.rest.head?.any fun label => (ascii label).head?.any (· ≠ 100)) = true

instance (form : ProofForm) : Decidable form.Labelled := inferInstanceAs (Decidable (_ ∧ _))

namespace ProofText

variable {t t' : ProofText}

def form (t : ProofText) : ProofForm := ⟨t.header, t.first.1, t.rest.map Prod.fst⟩

theorem exists_next (ht : t.form.Labelled) :
    ∃ field fields, t.rest = field :: fields ∧ newline ∉ ascii field.1 ∧
      (ascii field.1).head?.any (· ≠ 100) = true := by
  obtain ⟨-, -, hrest, hnext⟩ := ht
  cases hfields : t.rest with
  | nil => simp [form, hfields] at hnext
  | cons field fields =>
    simp only [form, hfields, List.map_cons, List.head?_cons, Option.any_some] at hrest hnext
    exact ⟨field, fields, rfl, hrest field.1 List.mem_cons_self, hnext⟩

theorem delegateFields_nil (h : t.delegateDID = []) : t.delegateFields = [] := if_pos h

theorem delegateFields_of_ne (h : t.delegateDID ≠ []) :
    t.delegateFields = [("delegate=", t.delegateDID)] := if_neg h

def values (t : ProofText) : List Bytes :=
  [t.first.2, t.nodeDID, t.delegateDID] ++ t.rest.map Prod.snd

theorem mem_fields_cases {field : String × Bytes} (h : field ∈ t.fields) :
    field = t.first ∨ field = ("node=", t.nodeDID) ∨ field = ("delegate=", t.delegateDID) ∨
      field ∈ t.rest := by
  simp only [fields, List.cons_append, List.nil_append, List.mem_cons, List.mem_append] at h
  obtain hfirst | hnode | hdelegate | hrest := h
  · exact .inl hfirst
  · exact .inr (.inl hnode)
  · rw [delegateFields] at hdelegate
    split at hdelegate
    · cases hdelegate
    · exact .inr (.inr (.inl (List.mem_singleton.mp hdelegate)))
  · exact .inr (.inr (.inr hrest))

theorem mem_values_of_mem_fields {field : String × Bytes} (h : field ∈ t.fields) :
    field.2 ∈ t.values := by
  obtain rfl | rfl | rfl | hrest := mem_fields_cases h
  · simp [values]
  · simp [values]
  · simp [values]
  · have hvalue : field.2 ∈ t.rest.map Prod.snd := List.mem_map_of_mem hrest
    simp [values, hvalue]

theorem newline_not_mem_node : newline ∉ ascii "node=" := by decide +kernel

theorem newline_not_mem_delegate : newline ∉ ascii "delegate=" := by decide +kernel

theorem newline_not_mem_lines (ht : t.form.Labelled) (hvalues : ∀ value ∈ t.values, newline ∉ value) :
    ∀ line ∈ t.lines, newline ∉ line := by
  have hlabels : ∀ field ∈ t.fields, newline ∉ ascii field.1 := by
    intro field hfield
    obtain rfl | rfl | rfl | hrest := mem_fields_cases hfield
    · exact ht.2.1
    · exact newline_not_mem_node
    · exact newline_not_mem_delegate
    · exact ht.2.2.1 field.1 (List.mem_map_of_mem hrest)
  intro line hline
  obtain rfl | hline := List.mem_cons.mp hline
  · exact ht.1
  · obtain ⟨field, hfield, rfl⟩ := List.mem_map.mp hline
    rw [fieldLine, List.mem_append, not_or]
    exact ⟨hlabels field hfield, hvalues field.2 (mem_values_of_mem_fields hfield)⟩

/-- A delegate line cannot be hidden behind a newline of another field: only the node DID stands
before it, and the DID parser accepts no equals sign. -/
theorem message_ne_of_delegate (hfree : ∀ line ∈ t.lines, newline ∉ line) (ht' : t'.form.Labelled)
    (hparsed : 61 ∉ t'.nodeDID) (hrest : t.rest.length = t'.rest.length)
    (hd : t.delegateDID ≠ []) (hd' : t'.delegateDID = []) : t.message ≠ t'.message := by
  intro h
  obtain ⟨next, after, hnext, hlabel, hletter⟩ := exists_next ht'
  simp only [lines, fields, delegateFields_of_ne hd] at hfree
  simp only [message, lines, fields, delegateFields_of_ne hd, delegateFields_nil hd', hnext] at h
  have hline : (fieldLine ("delegate=", t.delegateDID)).head? = some 100 := by
    have hlabel : (ascii "delegate=").head? = some 100 := by decide +kernel
    rw [fieldLine, List.head?_append, hlabel]
    rfl
  have hbefore : [ascii t.header, fieldLine t.first].length =
    [ascii t'.header, fieldLine t'.first].length := rfl
  have hafter : (t.rest.map fieldLine).length = (after.map fieldLine).length + 1 := by
    simp [hrest, hnext]
  obtain ⟨pieces, hnode⟩ | ⟨pieces, hcut⟩ | ⟨piece, hnode⟩ :=
    extra_line_cases (by simpa using hfree) hbefore hafter (by simpa using h)
  · have hletter : (ascii "node=").head?.any (· ≠ 100) = true := by decide +kernel
    refine head_ne_of_splitOn ?_ ?_ hnode hline
    · exact newline_not_mem_node
    · exact hletter
  · exact head_ne_of_splitOn hlabel hletter hcut hline
  · obtain ⟨front, back, hvalue, hsplit⟩ := splitOn_append newline_not_mem_node t'.nodeDID
    obtain ⟨-, rfl⟩ := List.cons.inj (hsplit.symm.trans hnode)
    have hmem : fieldLine ("delegate=", t.delegateDID) ∈ t'.nodeDID.splitOn newline := by
      simp [hvalue]
    have hequals : (61 : UInt8) ∈ ascii "delegate=" := by decide +kernel
    exact hparsed (mem_of_mem_splitOn hmem (List.mem_append_left _ hequals))

/-- Of two texts with the same message one has a delegate when the other has it. -/
theorem delegate_iff_of_message_eq (hfree : ∀ line ∈ t.lines, newline ∉ line) (ht' : t'.form.Labelled)
    (hparsed : 61 ∉ t'.nodeDID) (hrest : t.rest.length = t'.rest.length)
    (h : t.message = t'.message) : t.delegateDID = [] ↔ t'.delegateDID = [] := by
  constructor
  · intro hd
    by_contra hd'
    have hcount := length_le_of_unlines_eq hfree h
    simp [lines, fields, delegateFields_nil hd, delegateFields_of_ne hd', hrest] at hcount
  · intro hd'
    by_contra hd
    exact message_ne_of_delegate hfree ht' hparsed hrest hd hd' h

theorem delegateDID_eq_of_delegateFields (h : t.delegateFields = t'.delegateFields) :
    t.delegateDID = t'.delegateDID := by
  by_cases hd : t.delegateDID = []
  · by_cases hd' : t'.delegateDID = []
    · rw [hd, hd']
    · rw [delegateFields_nil hd, delegateFields_of_ne hd'] at h
      cases h
  · by_cases hd' : t'.delegateDID = []
    · rw [delegateFields_of_ne hd, delegateFields_nil hd'] at h
      cases h
    · rw [delegateFields_of_ne hd, delegateFields_of_ne hd', List.singleton_inj] at h
      exact (Prod.mk.inj h).2

theorem eq_of_fields_eq (hheader : t.header = t'.header)
    (hrest : t.rest.length = t'.rest.length) (h : t.fields = t'.fields) : t = t' := by
  obtain ⟨hfront, hrest⟩ := List.append_inj' h hrest
  obtain ⟨hpair, hdelegate⟩ := List.append_inj hfront rfl
  simp only [List.cons.injEq, Prod.mk.injEq, true_and, and_true] at hpair
  exact ProofText.ext hheader hpair.1 hpair.2 (delegateDID_eq_of_delegateFields hdelegate) hrest

theorem eq_of_message_eq (hfree : ∀ line ∈ t.lines, newline ∉ line) (ht' : t'.form.Labelled)
    (hparsed : 61 ∉ t'.nodeDID) (hform : t.form = t'.form) (h : t.message = t'.message) :
    t = t' := by
  obtain ⟨hheader, hfirst, hrest⟩ := ProofForm.mk.inj hform
  have hlen : t.rest.length = t'.rest.length := by simpa using congrArg List.length hrest
  have hdelegate := delegate_iff_of_message_eq hfree ht' hparsed hlen h
  have hlabels : t.fields.map Prod.fst = t'.fields.map Prod.fst := by
    by_cases hd : t.delegateDID = []
    · simp [fields, delegateFields_nil hd, delegateFields_nil (hdelegate.mp hd), hfirst, hrest]
    · simp [fields, delegateFields_of_ne hd, delegateFields_of_ne (mt hdelegate.mpr hd), hfirst, hrest]
  have hcount : t.lines.length = t'.lines.length := by
    have := congrArg List.length hlabels
    simpa [lines] using this
  have hlines := (List.cons.inj (eq_of_unlines_eq hfree hcount h)).2
  exact eq_of_fields_eq hheader hlen (map_fieldLine_inj hlabels hlines)

end ProofText

/-! ## Permissions -/

/-- The permissions a list stands for: blanks, order and repetitions do not count. -/
def permissionSet (permissions : List Bytes) : Finset Bytes :=
  ((permissions.map trimSpace).filter (· ≠ [])).toFinset

theorem mem_permissionSet {permissions : List Bytes} {permission : Bytes} :
    permission ∈ permissionSet permissions ↔
      permission ≠ [] ∧ ∃ text ∈ permissions, trimSpace text = permission := by
  simp [permissionSet, and_comm]

theorem trimSpace_of_trimmed {text : Bytes} (h : Trimmed spaces text) : trimSpace text = text :=
  trimWords_of_trimmed h

theorem trimmed_trimSpace (text : Bytes) : Trimmed spaces (trimSpace text) :=
  trimmed_trimWords spaces_nonempty text

theorem mem_addPermission {values : List Bytes} {text permission : Bytes} :
    permission ∈ addPermission values text ↔
      permission ∈ values ∨ permission ≠ [] ∧ trimSpace text = permission := by
  simp only [addPermission]
  split
  · next hblank =>
    rw [hblank]
    exact ⟨.inl, fun h => h.resolve_right fun h => h.1 h.2.symm⟩
  · next hblank =>
    split
    · next hseen => exact ⟨.inl, fun h => h.elim id fun h => h.2 ▸ hseen⟩
    · rw [List.mem_append, List.mem_singleton]
      constructor
      · rintro (h | rfl)
        · exact .inl h
        · exact .inr ⟨hblank, rfl⟩
      · rintro (h | ⟨-, rfl⟩)
        · exact .inl h
        · exact .inr rfl

theorem mem_foldl_addPermission {values permissions : List Bytes} {permission : Bytes} :
    permission ∈ permissions.foldl addPermission values ↔
      permission ∈ values ∨ permission ∈ permissionSet permissions := by
  induction permissions generalizing values with
  | nil => simp [permissionSet]
  | cons text permissions ih =>
    rw [List.foldl_cons, ih, mem_addPermission, mem_permissionSet, mem_permissionSet, or_assoc,
      ← and_or_left]
    simp

/-- The values that are joined for the proof. -/
theorem permissionsProofValue_eq (permissions : List Bytes) :
    ∃ values, permissionsProofValue permissions = [comma].intercalate values ∧
      ∀ permission, permission ∈ values ↔ permission ∈ permissionSet permissions := by
  refine ⟨_, rfl, fun permission => ?_⟩
  rw [List.mem_mergeSort, mem_foldl_addPermission]
  simp

theorem newline_not_mem_permissionsProofValue {permissions : List Bytes}
    (h : ∀ text ∈ permissions, newline ∉ text) : newline ∉ permissionsProofValue permissions := by
  obtain ⟨values, hvalue, hmem⟩ := permissionsProofValue_eq permissions
  rw [hvalue]
  intro hnewline
  obtain hcomma | ⟨value, hv, hnewline⟩ := mem_intercalate hnewline
  · cases hcomma
  · obtain ⟨-, text, htext, rfl⟩ := mem_permissionSet.mp ((hmem value).mp hv)
    exact h text htext (mem_of_mem_trimSpace hnewline)

/-- The signed value of a list of permissions without commas, read back. -/
theorem permissionSet_proofValue {permissions : List Bytes}
    (hcommas : ∀ text ∈ permissions, comma ∉ text) :
    permissionSet ((trimSpace (permissionsProofValue permissions)).splitOn comma) =
      permissionSet permissions := by
  obtain ⟨values, hvalue, hmem⟩ := permissionsProofValue_eq permissions
  have htrimmed : ∀ value ∈ values, Trimmed spaces value := by
    intro value hv
    obtain ⟨-, text, -, rfl⟩ := mem_permissionSet.mp ((hmem value).mp hv)
    exact trimmed_trimSpace text
  have hfree : ∀ value ∈ values, comma ∉ value := by
    intro value hv
    obtain ⟨-, text, htext, rfl⟩ := mem_permissionSet.mp ((hmem value).mp hv)
    exact fun hc => hcommas text htext (mem_of_mem_trimSpace hc)
  rw [hvalue]
  by_cases hnil : values = []
  · have hempty : permissionSet permissions = ∅ := by
      ext permission
      simp [← hmem, hnil]
    rw [hempty, hnil, List.intercalate_nil, trimSpace_nil]
    rfl
  · rw [trimSpace_of_trimmed (trimmed_intercalate comma_not_mem_spaces htrimmed hnil),
      List.splitOn_intercalate comma hfree hnil]
    ext permission
    rw [← hmem, mem_permissionSet]
    constructor
    · rintro ⟨-, value, hv, rfl⟩
      rwa [trimSpace_of_trimmed (htrimmed value hv)]
    · intro hv
      have hne := (mem_permissionSet.mp ((hmem permission).mp hv)).1
      exact ⟨hne, permission, hv, trimSpace_of_trimmed (htrimmed permission hv)⟩

/-! ## Calls -/

def Delivery.texts (d : Delivery) : List Bytes :=
  [d.delegateDID, d.callbackURL, d.responseEndpoint, d.responseToken]

theorem not_mem_trimSpace {text : Bytes} {b : UInt8} (h : b ∉ text) : b ∉ trimSpace text :=
  mt mem_of_mem_trimSpace h

theorem not_mem_nodeProofFields {values : List Bytes} {b : UInt8}
    (h : ∀ value ∈ values.take 5, b ∉ value) :
    ∀ text ∈ (nodeProofFields values).1.texts ++ [(nodeProofFields values).2], b ∉ text := by
  match values with
  | [] => simp [nodeProofFields, Delivery.texts, trimSpace_nil]
  | [v₁] => simp_all [nodeProofFields, Delivery.texts, trimSpace_nil, not_mem_trimSpace]
  | [v₁, v₂] => simp_all [nodeProofFields, Delivery.texts, trimSpace_nil, not_mem_trimSpace]
  | [v₁, v₂, v₃] => simp_all [nodeProofFields, Delivery.texts, trimSpace_nil, not_mem_trimSpace]
  | [v₁, v₂, v₃, v₄] => simp_all [nodeProofFields, Delivery.texts, not_mem_trimSpace]
  | v₁ :: v₂ :: v₃ :: v₄ :: v₅ :: rest =>
    simp_all [nodeProofFields, Delivery.texts, not_mem_trimSpace]

theorem not_mem_networkCreateProofFields {values : List Bytes} {b : UInt8}
    (h : ∀ value ∈ values.take 4, b ∉ value) :
    ∀ text ∈ (networkCreateProofFields values).texts, b ∉ text := by
  match values with
  | [] => simp [networkCreateProofFields, Delivery.texts, trimSpace_nil]
  | [v₁] => simp_all [networkCreateProofFields, Delivery.texts, trimSpace_nil, not_mem_trimSpace]
  | [v₁, v₂] =>
    simp_all [networkCreateProofFields, Delivery.texts, trimSpace_nil, not_mem_trimSpace]
  | [v₁, v₂, v₃] => simp_all [networkCreateProofFields, Delivery.texts, not_mem_trimSpace]
  | v₁ :: v₂ :: v₃ :: v₄ :: rest =>
    simp_all [networkCreateProofFields, Delivery.texts, not_mem_trimSpace]

/-- What is signed or verified by one call of a message's functions. -/
inductive ProofCall where
  | node (challenge nodeDID : Bytes) (delivery : List Bytes)
  | networkCreate (challenge nodeDID networkName endpoint meshCIDR : Bytes) (delivery : List Bytes)
  | nodeJoin (networkID nodeDID memberDID preAuthKeyID : Bytes)
  | ownerNode (ownerDID nodeDID sourceDWN requestedAt : Bytes)

/-- The fields that a proof is about. White space around the delivery fields does not count, nor
do blanks, order and repetitions of permissions; the member is the node if none is given. -/
inductive SignedFields where
  | node (challenge nodeDID : Bytes) (delivery : Delivery) (permissions : Finset Bytes)
  | networkCreate (challenge nodeDID networkName endpoint meshCIDR : Bytes) (delivery : Delivery)
  | nodeJoin (networkID nodeDID memberDID preAuthKeyID : Bytes)
  | ownerNode (ownerDID nodeDID sourceDWN requestedAt : Bytes)
deriving DecidableEq

/-- The forms of the four messages. -/
def proofForms : List ProofForm :=
  [(nodeProofText [] [] []).form, (networkCreateProofText [] [] [] [] [] []).form,
    (nodeJoinProofText [] [] [] []).form, (ownerNodeRequestProofText [] [] [] []).form]

theorem proofForms_labelled : ∀ form ∈ proofForms, form.Labelled := by decide +kernel

/-- The first lines tell the four messages apart. -/
theorem proofForms_header_inj :
    ∀ form ∈ proofForms, ∀ form' ∈ proofForms, ascii form.header = ascii form'.header →
      form = form' := by decide +kernel

namespace ProofCall

def text : ProofCall → ProofText
  | node challenge nodeDID delivery => nodeProofText challenge nodeDID delivery
  | networkCreate challenge nodeDID networkName endpoint meshCIDR delivery =>
    networkCreateProofText challenge nodeDID networkName endpoint meshCIDR delivery
  | nodeJoin networkID nodeDID memberDID preAuthKeyID =>
    nodeJoinProofText networkID nodeDID memberDID preAuthKeyID
  | ownerNode ownerDID nodeDID sourceDWN requestedAt =>
    ownerNodeRequestProofText ownerDID nodeDID sourceDWN requestedAt

def signedFields : ProofCall → SignedFields
  | node challenge nodeDID delivery =>
    let (d, permissions) := nodeProofFields delivery
    .node challenge nodeDID d (permissionSet (permissions.splitOn comma))
  | networkCreate challenge nodeDID networkName endpoint meshCIDR delivery =>
    .networkCreate challenge nodeDID networkName endpoint meshCIDR (networkCreateProofFields delivery)
  | nodeJoin networkID nodeDID memberDID preAuthKeyID =>
    .nodeJoin networkID nodeDID (memberOrNode memberDID nodeDID) preAuthKeyID
  | ownerNode ownerDID nodeDID sourceDWN requestedAt =>
    .ownerNode ownerDID nodeDID sourceDWN requestedAt

/-- The texts given for the fields. -/
def inputs : ProofCall → List Bytes
  | node challenge nodeDID delivery => [challenge, nodeDID] ++ delivery.take 5
  | networkCreate challenge nodeDID networkName endpoint meshCIDR delivery =>
    [challenge, nodeDID, networkName, endpoint, meshCIDR] ++ delivery.take 4
  | nodeJoin networkID nodeDID memberDID preAuthKeyID =>
    [networkID, nodeDID, memberDID, preAuthKeyID]
  | ownerNode ownerDID nodeDID sourceDWN requestedAt => [ownerDID, nodeDID, sourceDWN, requestedAt]

theorem form_mem (c : ProofCall) : c.text.form ∈ proofForms := by
  cases c <;> simp [proofForms, text, ProofText.form, nodeProofText, networkCreateProofText,
    nodeJoinProofText, ownerNodeRequestProofText]

theorem labelled (c : ProofCall) : c.text.form.Labelled := proofForms_labelled _ c.form_mem

variable {c c' : ProofCall}

theorem form_eq_of_message_eq (hfree : ∀ line ∈ c.text.lines, newline ∉ line)
    (h : c.text.message = c'.text.message) : c.text.form = c'.text.form :=
  proofForms_header_inj _ c.form_mem _ c'.form_mem (head_eq_of_unlines_eq hfree c'.labelled.1 h)

/-- The fields, read from the text. Two of the messages have as many lines. -/
def readText : ProofText → Option SignedFields
  | ⟨_, (_, challenge), nodeDID, delegateDID,
      [(_, callbackURL), (_, responseEndpoint), (_, responseToken), (_, permissions)]⟩ =>
    some (.node challenge nodeDID ⟨delegateDID, callbackURL, responseEndpoint, responseToken⟩
      (permissionSet (permissions.splitOn comma)))
  | ⟨_, (_, challenge), nodeDID, delegateDID, [(_, networkName), (_, endpoint), (_, meshCIDR),
      (_, callbackURL), (_, responseEndpoint), (_, responseToken)]⟩ =>
    some (.networkCreate challenge nodeDID networkName endpoint meshCIDR
      ⟨delegateDID, callbackURL, responseEndpoint, responseToken⟩)
  | ⟨header, (_, text₁), nodeDID, _, [(_, text₂), (_, text₃)]⟩ =>
    if header = "meshd node join v1" then some (.nodeJoin text₁ nodeDID text₂ text₃)
    else some (.ownerNode text₁ nodeDID text₂ text₃)
  | _ => none

theorem readText_text (c : ProofCall) : readText c.text = some c.signedFields := by
  cases c with
  | node challenge nodeDID delivery => rfl
  | networkCreate challenge nodeDID networkName endpoint meshCIDR delivery => rfl
  | nodeJoin networkID nodeDID memberDID preAuthKeyID => rfl
  | ownerNode ownerDID nodeDID sourceDWN requestedAt => rfl

/-- The values in the text are the given texts, some of them trimmed. -/
theorem newline_not_mem_values (hinputs : ∀ input ∈ c.inputs, newline ∉ input) :
    ∀ value ∈ c.text.values, newline ∉ value := by
  cases c with
  | node challenge nodeDID delivery =>
    obtain ⟨hcall, hdelivery⟩ := List.forall_mem_append.mp hinputs
    have hd := not_mem_nodeProofFields hdelivery
    simp_all [text, nodeProofText, ProofText.values, Delivery.texts]
  | networkCreate challenge nodeDID networkName endpoint meshCIDR delivery =>
    obtain ⟨hcall, hdelivery⟩ := List.forall_mem_append.mp hinputs
    have hd := not_mem_networkCreateProofFields hdelivery
    simp_all [text, networkCreateProofText, ProofText.values, Delivery.texts]
  | nodeJoin networkID nodeDID memberDID preAuthKeyID =>
    have hmember : newline ∉ memberOrNode memberDID nodeDID := by
      unfold memberOrNode
      split
      · exact hinputs nodeDID (by simp [inputs])
      · exact hinputs memberDID (by simp [inputs])
    simp_all [text, nodeJoinProofText, ProofText.values, inputs]
  | ownerNode ownerDID nodeDID sourceDWN requestedAt =>
    simp_all [text, ownerNodeRequestProofText, ProofText.values, inputs]

/-- Equal messages are about equal fields, when the inputs of one have no newline and the other
one's node DID is accepted. -/
theorem signedFields_eq_of_message_eq (hinputs : ∀ input ∈ c.inputs, newline ∉ input)
    (hparsed : 61 ∉ c'.text.nodeDID) (h : c.text.message = c'.text.message) :
    c.signedFields = c'.signedFields := by
  have hfree := ProofText.newline_not_mem_lines c.labelled (newline_not_mem_values hinputs)
  have htext : c.text = c'.text :=
    ProofText.eq_of_message_eq hfree c'.labelled hparsed (form_eq_of_message_eq hfree h) h
  apply Option.some.inj
  rw [← readText_text, ← readText_text, htext]

end ProofCall

end Meshd.Wallet
