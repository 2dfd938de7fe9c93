import Keyring.Proofs.Blocks
import Keyring.Proofs.Bytes
import Keyring.Proofs.Container

/-!
# PEM read back

* `Reading.lists_block` : a block that is written is one of those that may be read;
* `Writes` : a text consists of written blocks, so that `Writes.reading` gives the blocks back;
* `loads_texts` : an entry is loaded from its texts, from either order of them in one text, and its
  first certificate from the text of the chain.

A line ends in two bytes, of which the reader takes each for the end of a line.  So the second one ends
a line in which nothing else stands.
-/

namespace Keyring

namespace Pem

open Text

namespace Reading

/-- The lines of a content. -/
def pieces (content : Bytes) : List Bytes := (Base64.encode content).chunks width

theorem flatten_pieces (content : Bytes) : (pieces content).flatten = Base64.encode content :=
  Bytes.flatten_chunks (by decide) _

theorem mem_pieces {content p : Bytes} (hp : p ∈ pieces content) {b : UInt8} (hb : b ∈ p) :
    Base64.isBlank b = false ∧ b ≠ 0x2d ∧ b < 0x80 := by
  have hmem : b ∈ (pieces content).flatten := List.mem_flatten.2 ⟨p, hp, hb⟩
  rw [flatten_pieces] at hmem
  exact Base64.mem_encode hmem

/-- What is written of a content are its characters, and blanks. -/
theorem filter_lines {ps : List Bytes} (h : ∀ p ∈ ps, ∀ b ∈ p, Base64.isBlank b = false) :
    (ps.flatMap fun p => p ++ LineEnd.crlf.bytes).filter (fun b => !Base64.isBlank b) =
      ps.flatten := by
  have hends : LineEnd.crlf.bytes.filter (fun b => !Base64.isBlank b) = [] := by decide
  induction ps with
  | nil => rfl
  | cons p ps ih =>
    obtain ⟨hp, hps⟩ := List.forall_mem_cons.1 h
    have hkept : p.filter (fun b => !Base64.isBlank b) = p :=
      List.filter_eq_self.2 fun b hb => by simp [hp b hb]
    simp [hends, hkept, ih hps]

/-- Each line that is written ends in the second byte of a line end. -/
theorem getLast?_lines (ps : List Bytes) :
    (LineEnd.crlf.bytes ++ ps.flatMap fun p => p ++ LineEnd.crlf.bytes).getLast? = some 0x0a := by
  rcases List.eq_nil_or_concat ps with rfl | ⟨init, p, rfl⟩
  · rfl
  · rw [List.concat_eq_append, List.flatMap_append, List.flatMap_singleton, List.getLast?_append,
      List.getLast?_append, List.getLast?_append]
    rfl

theorem body_pieces (content : Bytes) :
    Body content
      (LineEnd.crlf.bytes ++ (pieces content).flatMap fun p => p ++ LineEnd.crlf.bytes) where
  head := ⟨0x0d, rfl, .inr rfl⟩
  last := ⟨0x0a, getLast?_lines _, .inl rfl⟩
  characters := by
    rw [List.filter_append, filter_lines fun p hp b hb => (mem_pieces hp hb).1, flatten_pieces]
    rfl

/-- A block that is written is a block of a text. -/
theorem lists_block (l : Label) (content : Bytes) {rest text : Bytes} {blocks : List Block}
    (h : Lists rest text blocks) :
    Lists rest (Block.bytes ⟨l.bytes, content⟩ .crlf ++ text) (⟨l.bytes, content⟩ :: blocks) := by
  have hspells : Spells ⟨l.bytes, content⟩ _ := .mk (isLabel l) (List.forall_mem_nil _)
    (body_pieces content) (List.forall_mem_nil _)
  have hempty : ¬ beginMark <+: [] := by decide +kernel
  have hlists := Lists.block hspells (.lineEnd (.inr rfl))
    (.line (List.forall_mem_nil _) hempty (.lineEnd (.inl rfl)) h)
  simpa only [Block.bytes, pieces, LineEnd.bytes, List.append_assoc, List.append_nil,
    List.nil_append, List.cons_append] using hlists

end Reading

/-! ### Texts -/

/-- A text consists of written blocks with labels that are read. -/
structure Writes (text : String) (blocks : List Block) : Prop where
  labels : ∀ b ∈ blocks, ∃ l : Label, b.label = l.bytes
  bytes : Bytes.ofString text = blocks.flatMap fun b => b.bytes .crlf

namespace Writes

variable {s t : String} {bs cs : List Block}

theorem append (h : Writes s bs) (h' : Writes t cs) : Writes (s ++ t) (bs ++ cs) where
  labels := List.forall_mem_append.2 ⟨h.labels, h'.labels⟩
  bytes := by rw [Bytes.ofString_append, h.bytes, h'.bytes, List.flatMap_append]

theorem lists (h : Writes t bs) : Lists [] (Bytes.ofString t) bs := by
  obtain ⟨hlabels, hbytes⟩ := h
  rw [hbytes]
  clear hbytes
  induction bs with
  | nil => exact .nil
  | cons b bs ih =>
    obtain ⟨⟨l, hl⟩, hbs⟩ := List.forall_mem_cons.1 hlabels
    obtain ⟨_, content⟩ := b
    obtain rfl : _ = l.bytes := hl
    rw [List.flatMap_cons]
    exact Reading.lists_block l content (ih hbs)

/-- The blocks of a text are read from it. -/
theorem reading (h : Writes t bs) : Reading.ofText t = ⟨bs, none⟩ := by
  have hknown : bs.filter Block.isKnown = bs := List.filter_eq_self.2 fun b hb =>
    Block.isKnown_of_label (h.labels b hb).choose_spec
  rw [Reading.ofText_of_lists h.lists, hknown]

theorem ascii_crlf : ∀ b ∈ LineEnd.crlf.bytes, b < 0x80 := by decide +kernel

theorem ascii_marks (l : Label) :
    (∀ b ∈ beginMark ++ l.bytes ++ dashes ++ LineEnd.crlf.bytes, b < 0x80) ∧
      ∀ b ∈ endMark ++ l.bytes ++ dashes ++ LineEnd.crlf.bytes, b < 0x80 := by
  cases l <;> decide +kernel

/-- A written block is ASCII, so its bytes are those of its text. -/
theorem block (l : Label) (content : Bytes) :
    Writes (Block.text ⟨l.bytes, content⟩ .crlf) [⟨l.bytes, content⟩] where
  labels b hb := ⟨l, congrArg Block.label (List.mem_singleton.1 hb)⟩
  bytes := by
    obtain ⟨hbegin, hend⟩ := ascii_marks l
    have hlines : ∀ b ∈ (Reading.pieces content).flatMap (fun p => p ++ LineEnd.crlf.bytes),
        b < 0x80 := by
      intro b hb
      obtain ⟨p, hp, hb⟩ := List.mem_flatMap.1 hb
      rcases List.mem_append.1 hb with hb | hb
      · exact (Reading.mem_pieces hp hb).2.2
      · exact ascii_crlf b hb
    have hascii : ∀ b ∈ Block.bytes ⟨l.bytes, content⟩ .crlf, b < 0x80 :=
      List.forall_mem_append.2 ⟨List.forall_mem_append.2 ⟨hbegin, hlines⟩, hend⟩
    obtain ⟨text, htext⟩ := Bytes.isText_of_ascii hascii
    rw [Block.text, ← htext, Bytes.toString?_ofString, Option.getD_some, htext]
    simp

theorem keyText (e : KeyEntry) : Writes (Pem.keyText e) [⟨Label.key.bytes, e.key⟩] := block .key e.key

theorem chainText (e : KeyEntry) :
    Writes (Pem.chainText e) (e.chain.map fun der => ⟨Label.certificate.bytes, der⟩) := by
  rw [Pem.chainText]
  induction e.chain with
  | nil => exact ⟨fun b hb => absurd hb List.not_mem_nil, rfl⟩
  | cons der chain ih =>
    rw [List.map_cons, List.map_cons, String.join_cons]
    exact (block .certificate der).append ih

/-! ### Loading -/

/-- Certificates in front of a private key are passed over. -/
theorem privateKey_eq {key : Bytes} {before after : List Block}
    (hbefore : ∀ b ∈ before, b.label = Label.certificate.bytes)
    (h : Writes t (before ++ ⟨Label.key.bytes, key⟩ :: after)) : privateKey t = .ok key := by
  have hnone : before.find? (fun b => [Label.key, Label.rsaKey, Label.ecKey].any
      fun (l : Label) => b.label == l.bytes) = none := by
    refine List.find?_eq_none.2 fun b hb => ?_
    rw [hbefore b hb]
    decide +kernel
  have hkey : ([Label.key, Label.rsaKey, Label.ecKey].any
      fun (l : Label) => Label.key.bytes == l.bytes) = true := by
    decide +kernel
  simp only [privateKey, h.reading, List.find?_append, hnone, List.find?_cons, hkey, Option.none_or,
    if_true]

/-- The certificates of a text are those of its blocks, whatever else is among them. -/
theorem certificates_eq {chain : List Bytes} (hchain : chain ≠ [])
    (hbs : bs.filter (·.label == Label.certificate.bytes) =
      chain.map fun der => ⟨Label.certificate.bytes, der⟩)
    (h : Writes t bs) : certificates t = .ok chain := by
  have hcontents : (chain.map fun der => Block.mk Label.certificate.bytes der).map Block.content =
      chain := by
    simp [Function.comp_def]
  obtain ⟨der, ders, rfl⟩ := List.exists_cons_of_ne_nil hchain
  simp only [certificates, h.reading, hbs]
  rw [List.map_cons]
  exact congrArg Except.ok hcontents

theorem certificate_eq {der : Bytes} {after : List Block}
    (h : Writes t (⟨Label.certificate.bytes, der⟩ :: after)) : certificate t = .ok der := by
  simp [certificate, h.reading]

/-- A text with the private key and a text with the certificates of an entry make that entry. -/
theorem keyEntry_eq {e : KeyEntry} (he : e.WellFormed) {before after : List Block}
    (hbefore : ∀ b ∈ before, b.label = Label.certificate.bytes)
    (hkey : Writes s (before ++ ⟨Label.key.bytes, e.key⟩ :: after))
    (hbs : bs.filter (·.label == Label.certificate.bytes) =
      e.chain.map fun der => ⟨Label.certificate.bytes, der⟩)
    (hchain : Writes t bs) : keyEntry s t = .ok e := by
  have hread : privateKey s = .ok e.key := privateKey_eq hbefore hkey
  have hcertificates : certificates t = .ok e.chain := certificates_eq he.2.1 hbs hchain
  rw [keyEntry, hread]
  change (certificates t >>= KeyEntry.of e.key) = .ok e
  rw [hcertificates]
  exact KeyEntry.of_eq_ok_iff.2 ⟨rfl, he⟩

end Writes

/-! ### Entries from their own texts -/

/-- **An entry is loaded from its texts**, where these stand apart and where they are one text, in
either order; and the certificate issued for its key is the one loaded from the text of the chain. -/
theorem loads_texts (e : KeyEntry) (he : e.WellFormed) :
    keyEntry (keyText e) (chainText e) = .ok e ∧
      keyEntry (keyText e ++ chainText e) (keyText e ++ chainText e) = .ok e ∧
      keyEntry (chainText e ++ keyText e) (chainText e ++ keyText e) = .ok e ∧
      trustedEntry (chainText e) = .ok ⟨e.leaf⟩ := by
  have hkey : Writes (keyText e) [⟨Label.key.bytes, e.key⟩] := .keyText e
  have hchain : Writes (chainText e) (e.chain.map fun der => ⟨Label.certificate.bytes, der⟩) :=
    .chainText e
  have hlabels : ∀ b ∈ e.chain.map (Block.mk Label.certificate.bytes),
      b.label = Label.certificate.bytes := by
    simp
  have hdrop : (Label.key.bytes == Label.certificate.bytes) = false := by decide +kernel
  have hfilter : (e.chain.map (Block.mk Label.certificate.bytes)).filter
      (·.label == Label.certificate.bytes) = e.chain.map (Block.mk Label.certificate.bytes) :=
    List.filter_eq_self.2 fun b hb => by simp [hlabels b hb]
  have hkeyless : ([⟨Label.key.bytes, e.key⟩] : List Block).filter
      (·.label == Label.certificate.bytes) = [] := by
    simp [hdrop]
  refine ⟨?_, ?_, ?_, ?_⟩
  · exact Writes.keyEntry_eq he (List.forall_mem_nil _) hkey hfilter hchain
  · have htext := hkey.append hchain
    refine Writes.keyEntry_eq he (List.forall_mem_nil _) htext ?_ htext
    rw [List.filter_append, hkeyless, hfilter, List.nil_append]
  · have htext := hchain.append hkey
    refine Writes.keyEntry_eq he hlabels htext ?_ htext
    rw [List.filter_append, hkeyless, hfilter, List.append_nil]
  · obtain ⟨-, hne, hcertificates⟩ := he
    obtain ⟨der, ders, hcons⟩ := List.exists_cons_of_ne_nil hne
    have hleaf : e.leaf = der := by rw [KeyEntry.leaf, hcons, List.headD_cons]
    rw [hcons] at hchain hcertificates
    rw [trustedEntry, hchain.certificate_eq, hleaf]
    exact TrustedEntry.of_eq_ok_iff.2 ⟨rfl, hcertificates der List.mem_cons_self⟩

/-- An entry with two certificates and a key of 48 bytes, which fill one line. -/
theorem loads_texts_sample :
    Sample.entry.WellFormed ∧
      keyEntry (keyText Sample.entry) (chainText Sample.entry) = .ok Sample.entry ∧
      keyEntry (keyText Sample.entry ++ chainText Sample.entry)
        (keyText Sample.entry ++ chainText Sample.entry) = .ok Sample.entry ∧
      keyEntry (chainText Sample.entry ++ keyText Sample.entry)
        (chainText Sample.entry ++ keyText Sample.entry) = .ok Sample.entry ∧
      trustedEntry (chainText Sample.entry) = .ok ⟨Sample.certificate 1⟩ :=
  ⟨Sample.wellFormed_entry, loads_texts Sample.entry Sample.wellFormed_entry⟩

end Pem

end Keyring
