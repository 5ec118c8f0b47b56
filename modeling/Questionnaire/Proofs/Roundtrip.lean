import Questionnaire.Proofs.Decoding
import Questionnaire.Config
/-!
# Json — every record reads back as written

Each writer of the library emits an object that its reader takes back: a
form with its pages, sections, rows, fields, choices and constraint bags and
its rules with their condition trees of any depth; the interpreter's
settings; and an answer. Each record is read through `Tree.record_obj`, entry
by entry in the order the writer put them, with the optional entries the
writer left out keeping the reader's defaults.

Two things bound what reads back. What the crate's types cannot hold is left
out: counts above a machine word, byte limits above 64 bits, a version above
32 bits, and condition values whose objects repeat or misorder keys; and a
value bound that is not finite, which is written as `null` and reads back as
no bound (`Schema.Representable`). And an answer's written form loses two
distinctions: an empty list of files is written as an empty array, which
reads as an empty list of texts, and a number that is not finite is written
as `null`.

A condition tree is read without tags: a node is a condition if it reads as
one, and a group otherwise. A group's object has no field id, so it never
reads as a condition (`Rules.Condition.decode_group`), and each written leaf
and group comes back as itself (`Rules.Node.ofValueFuel_toValue`, by
induction on the tree, the reader's nesting bound always above the written
depth).

**Main statement.** `decode_toValue_roundtrip`.
-/

namespace Questionnaire

open Json

/-! ## Forms -/

namespace Schema

/-- **A constraint bag that reads back**: its lengths and file count fit a
machine word, its byte limit 64 bits, and its value bounds are finite, since
one that is not is written `null` and reads back as no bound. -/
structure Constraints.Representable (c : Constraints) : Prop where
  minLength : ∀ n ∈ c.minLength, n ≤ usizeMax
  maxLength : ∀ n ∈ c.maxLength, n ≤ usizeMax
  min : ∀ x ∈ c.min, x.isFinite = true
  max : ∀ x ∈ c.max, x.isFinite = true
  maxFiles : ∀ n ∈ c.maxFiles, n ≤ usizeMax
  maxFileSizeBytes : ∀ n ∈ c.maxFileSizeBytes, n ≤ u64Max

/-- **A constraint bag reads back.** -/
theorem Constraints.decode_toValue (c : Constraints) (hc : c.Representable) :
    Constraints.decode (m := Json.Tree) c.toValue = .ok c := by
  unfold Constraints.decode Constraints.toValue
  refine Tree.record_obj "FieldValidation" (by simp [nodup_optEntry_append, mem_map_fst_optEntry])
    (fun _ h => nomatch h) ?_
  simp only [List.append_assoc, List.cons_append, List.nil_append]
  -- the entries in the writer's order, each optional one setting its field or keeping the default
  rw [foldlM_optEntry_append (fun d v => { d with minLength := v })
      (fun n hn => by simp [Tree.readEntry, optCount,
        Tree.option_of_ok rfl (Tree.natUpTo_of_le (hc.minLength n hn))]) rfl,
    foldlM_optEntry_append (fun d v => { d with maxLength := v })
      (fun n hn => by simp [Tree.readEntry, optCount,
        Tree.option_of_ok rfl (Tree.natUpTo_of_le (hc.maxLength n hn))]) rfl,
    foldlM_optEntry_append (fun d v => { d with pattern := v }) (fun _ _ => rfl) rfl,
    foldlM_optEntry_append (fun d v => { d with patternMessage := v }) (fun _ _ => rfl) rfl,
    foldlM_optEntry_append (fun d v => { d with min := v })
      (fun x hx => by simp [hc.min x hx]; rfl) rfl,
    foldlM_optEntry_append (fun d v => { d with max := v })
      (fun x hx => by simp [hc.max x hx]; rfl) rfl,
    foldlM_optEntry_append (fun d v => { d with minDate := v }) (fun _ _ => rfl) rfl,
    foldlM_optEntry_append (fun d v => { d with maxDate := v }) (fun _ _ => rfl) rfl,
    Tree.foldlM_cons_of_readEntry _ rfl, Tree.foldlM_cons_of_readEntry _ rfl,
    foldlM_optEntry_append (fun d v => { d with allowedValues := v })
      (fun ts _ => by simp [Tree.readEntry, optTexts, textsValue,
        Tree.option_of_ok rfl (Tree.seq_string ts)]) rfl,
    foldlM_optEntry_append (fun d v => { d with maxFiles := v })
      (fun n hn => by simp [Tree.readEntry, optCount,
        Tree.option_of_ok rfl (Tree.natUpTo_of_le (hc.maxFiles n hn))]) rfl,
    foldlM_optEntry_append (fun d v => { d with maxFileSizeBytes := v })
      (fun n hn => by simp [Tree.readEntry,
        Tree.option_of_ok rfl (Tree.natUpTo_of_le (hc.maxFileSizeBytes n hn))]) rfl,
    foldlM_optEntry (fun d v => { d with acceptedFileTypes := v })
      (fun ts _ => by simp [Tree.readEntry, optTexts, textsValue,
        Tree.option_of_ok rfl (Tree.seq_string ts)]) rfl]

theorem Choice.decode_toValue (c : Choice) : Choice.decode (m := Json.Tree) c.toValue = .ok c := by
  unfold Choice.decode Choice.toValue
  refine Tree.record_obj "FieldOption" (by simp [mem_map_fst_optEntry]) (by simp) ?_
  rw [List.singleton_append, Tree.foldlM_cons_of_readEntry _ rfl,
    foldlM_optEntry (fun d v => { d with label := v }) (fun _ _ => rfl) rfl]

theorem FieldKind.variant_name (k : FieldKind) : Tree.variant FieldKind.named none k.name = .ok k := by
  cases k <;> rfl

/-- **A field the crate's types can hold**: its constraint bag, if any, is. -/
def Field.Representable (f : Field) : Prop := ∀ c ∈ f.validation, c.Representable

theorem Field.decode_toValue (f : Field) (hf : f.Representable) :
    Field.decode (m := Json.Tree) f.toValue = .ok f := by
  unfold Field.decode Field.toValue
  refine Tree.record_obj "FormField" (by simp [nodup_optEntry_append, mem_map_fst_optEntry])
    (by simp) ?_
  simp only [List.cons_append, List.nil_append]
  rw [Tree.foldlM_cons_of_readEntry _ rfl,
    Tree.foldlM_cons_of_readEntry { id := f.id, kind := f.kind }
      (by simp [Tree.readEntry, Tree.enumeration_str, FieldKind.variant_name]),
    Tree.foldlM_cons_of_readEntry _ rfl, Tree.foldlM_cons_of_readEntry _ rfl,
    foldlM_optEntry_append (fun d v => { d with options := v })
      (fun cs _ => by simp [Tree.readEntry, Tree.option_of_ok rfl
        (Tree.seq_of_forall cs fun c _ => Choice.decode_toValue c)]) rfl,
    foldlM_optEntry (fun d v => { d with validation := v })
      (fun c hc => by simp [Tree.readEntry,
        Tree.option_of_ok rfl (Constraints.decode_toValue c (hf c hc))]) rfl]

theorem Row.decode_toValue (r : Row) (hr : ∀ f ∈ r.fields, f.Representable) :
    Row.decode (m := Json.Tree) r.toValue = .ok r := by
  unfold Row.decode Row.toValue
  refine Tree.record_obj "Row" (by simp [nodup_optEntry_append])
    (fun _ h => nomatch h) ?_
  rw [foldlM_optEntry_append (fun d v => { d with id := v }) (fun _ _ => rfl) rfl,
    Tree.foldlM_cons_of_readEntry r (by simp [Tree.readEntry,
      Tree.seq_of_forall r.fields fun f hf => Field.decode_toValue f (hr f hf)])]
  rfl

theorem Section.decode_toValue (s : Section) (hs : ∀ r ∈ s.rows, ∀ f ∈ r.fields, f.Representable) :
    Section.decode (m := Json.Tree) s.toValue = .ok s := by
  unfold Section.decode Section.toValue
  refine Tree.record_obj "Section" (by simp [nodup_optEntry_append, mem_map_fst_optEntry])
    (fun _ h => nomatch h) ?_
  simp only [List.cons_append, List.nil_append]
  rw [Tree.foldlM_cons_of_readEntry _ rfl,
    foldlM_optEntry_append (fun d v => { d with title := v }) (fun _ _ => rfl) rfl,
    Tree.foldlM_cons_of_readEntry s (by simp [Tree.readEntry,
      Tree.seq_of_forall s.rows fun r hr => Row.decode_toValue r (hs r hr)])]
  rfl

theorem Page.decode_toValue (p : Page) (hp : ∀ f ∈ p.fields, f.Representable) :
    Page.decode (m := Json.Tree) p.toValue = .ok p := by
  have hsections : ∀ s ∈ p.sections, ∀ r ∈ s.rows, ∀ f ∈ r.fields, f.Representable :=
    fun s hs r hr f hf => hp f (by
      simp only [Page.fields, List.mem_flatMap]
      exact ⟨s, hs, r, hr, hf⟩)
  unfold Page.decode Page.toValue
  refine Tree.record_obj "Page" (by simp [nodup_optEntry_append, mem_map_fst_optEntry])
    (by simp) ?_
  simp only [List.append_assoc, List.cons_append, List.nil_append]
  rw [Tree.foldlM_cons_of_readEntry _ rfl, Tree.foldlM_cons_of_readEntry _ rfl,
    foldlM_optEntry_append (fun d v => { d with description := v }) (fun _ _ => rfl) rfl,
    foldlM_optEntry_append (fun d v => { d with coverImage := v }) (fun _ _ => rfl) rfl,
    Tree.foldlM_cons_of_readEntry p (by simp [Tree.readEntry,
      Tree.seq_of_forall p.sections fun s hs => Section.decode_toValue s (hsections s hs)])]
  rfl

end Schema

/-! ## Rules -/

namespace Rules

theorem Operator.variant_name (o : Operator) :
    Tree.variant Operator.named (some .unknown) o.name = .ok o := by
  cases o <;> rfl

theorem Combinator.variant_name (c : Combinator) :
    Tree.variant Combinator.named (some .unknown) c.name = .ok c := by
  cases c <;> rfl

theorem ActionKind.variant_name (k : ActionKind) :
    Tree.variant ActionKind.named (some .unknown) k.name = .ok k := by
  cases k <;> rfl

/-- **A condition reads back** when its value is canonical: the reader
hands back the canonical form of the value. -/
theorem Condition.decode_toValue (c : Condition) (h : c.value.Canonical) :
    Condition.decode (m := Json.Tree) c.toValue = .ok c := by
  unfold Condition.decode Condition.toValue
  refine Tree.record_obj "Condition" (by simp) (by simp) ?_
  rw [Tree.foldlM_cons_of_readEntry _ rfl,
    Tree.foldlM_cons_of_readEntry { fieldId := c.fieldId, operator := c.operator }
      (by simp [Tree.readEntry, Tree.enumeration_str, Operator.variant_name]),
    Tree.foldlM_cons_of_readEntry c
      (by simp [Tree.readEntry, Decoder.value, Decoder.content, Value.normalize_of_canonical h])]
  rfl

/-- **A group's object is no condition**: it has no field id. -/
theorem Condition.decode_group (comb : Combinator) (children : List Node) :
    Condition.decode (m := Json.Tree) (Node.group comb children).toValue =
      .error (.of (.missingField "fieldId")) := rfl

theorem Node.toValues_eq_map (ns : List Node) : Node.toValues ns = ns.map Node.toValue := by
  induction ns with
  | nil => rfl
  | cons n rest ih => rw [Node.toValues, ih, List.map_cons]

theorem Node.mem_leavesList {c : Condition} {ns : List Node} :
    c ∈ Node.leavesList ns ↔ ∃ n ∈ ns, c ∈ n.leaves := by
  induction ns with
  | nil => simp [Node.leavesList]
  | cons n rest ih => simp [Node.leavesList, ih]

theorem Node.depth_group_toValue (comb : Combinator) (children : List Node) :
    (Node.group comb children).toValue.depth = 2 + Value.depthItems (Node.toValues children) := by
  simp [Node.toValue, Value.depth, Value.depthEntries]
  omega

/-- **A group reads back** when each child does under the node reader. -/
theorem Group.decodeWith_toValue {node : Value → Except Error Node} (comb : Combinator)
    (children : List Node) (h : ∀ n ∈ children, node n.toValue = .ok n) :
    Group.decodeWith (m := Json.Tree) node (Node.group comb children).toValue = .ok ⟨comb, children⟩ := by
  unfold Group.decodeWith Node.toValue
  refine Tree.record_obj "ConditionGroup" (by simp) (fun _ h => nomatch h) ?_
  rw [Tree.foldlM_cons_of_readEntry { combinator := comb }
      (by simp [Tree.readEntry, Tree.enumeration_str, Combinator.variant_name]),
    Tree.foldlM_cons_of_readEntry ⟨comb, children⟩ (by
      simp [Tree.readEntry, Node.toValues_eq_map,
        Tree.seq_of_forall children fun n hn => Tree.untagged_single (h n hn)])]
  rfl

mutual

/-- **A written node reads back as itself**, leaf as condition and group as
group, when the nesting bound is above its written depth. -/
theorem Node.ofValueFuel_toValue : ∀ (n : Node) (fuel : Nat), n.toValue.depth < fuel →
    (∀ c ∈ n.leaves, c.value.Canonical) → Node.ofValueFuel fuel n.toValue = .ok n
  | _, 0, hd, _ => absurd hd (Nat.not_lt_zero _)
  | .leaf c, fuel + 1, _, hc => by
    have hleaf := Condition.decode_toValue c (hc c (by simp [Node.leaves]))
    simp [Node.ofValueFuel, Node.shapesWith, Decoder.firstOk, decodeValue, Node.toValue, hleaf]
  | .group comb children, fuel + 1, hd, hc => by
    -- the children are read one level down, where they still fit
    rw [Node.depth_group_toValue] at hd
    have hchildren := Node.ofValueFuel_toValues children fuel (by omega)
      (by simpa [Node.leaves] using hc)
    simp [Node.ofValueFuel, Node.shapesWith, Decoder.firstOk, decodeValue, Condition.decode_group,
      Group.decodeWith_toValue comb children hchildren]

theorem Node.ofValueFuel_toValues : ∀ (ns : List Node) (fuel : Nat),
    Value.depthItems (Node.toValues ns) < fuel → (∀ c ∈ Node.leavesList ns, c.value.Canonical) →
    ∀ n ∈ ns, Node.ofValueFuel fuel n.toValue = .ok n
  | [], _, _, _ => by simp
  | n :: rest, fuel, hd, hc => by
    simp only [Node.toValues, Value.depthItems] at hd
    have hn := Node.ofValueFuel_toValue n fuel (by omega)
      fun c h => hc c (Node.mem_leavesList.2 ⟨n, List.mem_cons_self, h⟩)
    have hrest := Node.ofValueFuel_toValues rest fuel (by omega)
      fun c h => hc c (by simp [Node.leavesList, h])
    simpa [hn] using hrest

end

/-- **A condition tree reads back**: each child is read under a nesting
bound one above its own written depth. -/
theorem Group.decode_toValue (g : Group) (h : ∀ c ∈ g.leaves, c.value.Canonical) :
    Group.decode (m := Json.Tree) g.toValue = .ok g := by
  have hchildren : ∀ n ∈ g.children, Node.ofValue n.toValue = .ok n := fun n hn =>
    Node.ofValueFuel_toValue n _ (Nat.lt_succ_self _) fun c hc =>
      h c (Node.mem_leavesList.2 ⟨n, hn, hc⟩)
  exact Group.decodeWith_toValue g.combinator g.children hchildren

theorem Action.decode_toValue (a : Action) : Action.decode (m := Json.Tree) a.toValue = .ok a := by
  unfold Action.decode Action.toValue
  refine Tree.record_obj "Action" (by simp) (by simp) ?_
  rw [Tree.foldlM_cons_of_readEntry { kind := a.kind, target := "" }
      (by simp [Tree.readEntry, Tree.enumeration_str, ActionKind.variant_name]),
    Tree.foldlM_cons_of_readEntry _ rfl]
  rfl

theorem Rule.decode_toValue (r : Rule) (h : ∀ c ∈ r.conditions.leaves, c.value.Canonical) :
    Rule.decode (m := Json.Tree) r.toValue = .ok r := by
  unfold Rule.decode Rule.toValue
  rw [Schema.map_getD_eq_optEntry]
  refine Tree.record_obj "Rule"
    (by simp [Schema.nodup_optEntry_append]) (fun _ h => nomatch h) ?_
  rw [Schema.foldlM_optEntry_append (fun d v => { d with id := v }) (fun _ _ => rfl) rfl,
    Tree.foldlM_cons_of_readEntry { id := r.id, conditions := r.conditions }
      (by simp [Tree.readEntry, Group.decode_toValue r.conditions h]),
    Tree.foldlM_cons_of_readEntry r (by simp [Tree.readEntry,
      Tree.seq_of_forall r.actions fun a _ => Action.decode_toValue a])]
  rfl

end Rules

namespace Schema

/-- **A form that reads back**: a version of 32 bits; in every field's
constraints, counts of a machine word, byte limits of 64 bits and finite
value bounds; and condition values in canonical form, as the maps of the
serialisation library keep them. -/
structure Representable (s : Schema) : Prop where
  version : ∀ n ∈ s.version, n ≤ u32Max
  fields : ∀ f ∈ s.allFields, f.Representable
  values : ∀ r ∈ s.rules, ∀ c ∈ r.conditions.leaves, c.value.Canonical

theorem decode_toValue (s : Schema) (hs : s.Representable) :
    Schema.decode (m := Json.Tree) s.toValue = .ok s := by
  have hpages : ∀ p ∈ s.pages, ∀ f ∈ p.fields, f.Representable := fun p hp f hf =>
    hs.fields f (by
      simp only [Schema.allFields, List.mem_flatMap]
      exact ⟨p, hp, hf⟩)
  unfold Schema.decode Schema.toValue
  refine Tree.record_obj "FormSchema" (by simp [nodup_optEntry_append, mem_map_fst_optEntry])
    (fun _ h => nomatch h) ?_
  simp only [List.append_assoc]
  rw [foldlM_optEntry_append (fun d v => { d with id := v }) (fun _ _ => rfl) rfl,
    foldlM_optEntry_append (fun d v => { d with title := v }) (fun _ _ => rfl) rfl,
    foldlM_optEntry_append (fun d v => { d with version := v })
      (fun n hn => by simp [Tree.readEntry,
        Tree.option_of_ok rfl (Tree.natUpTo_of_le (hs.version n hn))]) rfl,
    Tree.foldlM_cons_of_readEntry { id := s.id, title := s.title, version := s.version, pages := s.pages }
      (by simp [Tree.readEntry,
        Tree.seq_of_forall s.pages fun p hp => Page.decode_toValue p (hpages p hp)]),
    Tree.foldlM_cons_of_readEntry s (by simp [Tree.readEntry,
      Tree.seq_of_forall s.rules fun r hr => Rules.Rule.decode_toValue r (hs.values r hr)])]
  rfl

end Schema

/-! ## Answers -/

theorem FileRef.decode_toValue (f : FileRef) (h : ∀ n ∈ f.size, n ≤ u64Max) :
    FileRef.decode (m := Json.Tree) f.toValue = .ok f := by
  unfold FileRef.decode FileRef.toValue
  simp only [Schema.map_getD_eq_optEntry]
  refine Tree.record_obj "FileRef" (by simp [Schema.nodup_optEntry_append, Schema.mem_map_fst_optEntry])
    (by simp) ?_
  simp only [List.append_assoc, List.cons_append, List.nil_append]
  rw [Tree.foldlM_cons_of_readEntry _ rfl,
    Schema.foldlM_optEntry_append (fun d v => { d with size := v })
      (fun n hn => by simp [Tree.readEntry, Tree.option_of_ok rfl (Tree.natUpTo_of_le (h n hn))]) rfl,
    Schema.foldlM_optEntry_append (fun d v => { d with mimeType := v }) (fun _ _ => rfl) rfl,
    Schema.foldlM_optEntry (fun d v => { d with url := v }) (fun _ _ => rfl) rfl]

namespace Answer

theorem textsOf_map_str (ts : List String) : textsOf (ts.map Value.str) = some ts := by
  induction ts with
  | nil => rfl
  | cons t rest ih => simp [textsOf, ih]

/-- **An answer the crate's types can hold**: every file size fits 64 bits. -/
def SizesFit : Answer → Prop
  | .files fs => ∀ f ∈ fs, ∀ n ∈ f.size, n ≤ u64Max
  | _ => True

/-- Reading an answer from a value in memory is `ofValue`. -/
theorem decode_eq_ofValue (v : Value) : decodeValue Answer.decode v = ofValue v := by
  cases h : Decoder.firstOk shapes v <;>
    simp [decodeValue, Answer.decode, ofValue, Decoder.untagged, h, Decoder.content, Decoder.fail,
      bind, ReaderT.bind, Except.bind, pure, ReaderT.pure, Except.pure]

/-- **A number reads back** when it is finite; one that is not was written
as `null`, and reads as no answer. -/
theorem decode_number (x : Float) :
    decodeValue Answer.decode (Answer.number x).toValue =
      .ok (if x.isFinite then .number x else .null) := by
  by_cases hx : x.isFinite
  · simp [hx, toValue, decode_eq_ofValue, ofValue, Decoder.firstOk, shapes, Num.toFloat]
  · simp [hx, toValue, decode_eq_ofValue, ofValue, Decoder.firstOk, shapes]

/-- An array of texts reads as a list of texts. -/
theorem decode_arr_texts {items : List Value} {ts : List String} (h : textsOf items = some ts) :
    decodeValue Answer.decode (.arr items) = .ok (.list ts) := by
  simp [decode_eq_ofValue, ofValue, Decoder.firstOk, shapes, h]

/-- An array that is not all texts reads as files when its items read as
file records. -/
theorem decode_arr_files {items : List Value} {fs : List FileRef} (h : textsOf items = none)
    (hread : items.mapM (decodeValue FileRef.decode) = .ok fs) :
    decodeValue Answer.decode (.arr items) = .ok (.files fs) := by
  simp [decode_eq_ofValue, ofValue, Decoder.firstOk, shapes, h, hread]

/-- **An answer reads back** unless it is an empty list of files or a number
that is not finite. -/
theorem decode_toValue (a : Answer) (hsizes : a.SizesFit) (hfiles : a ≠ .files [])
    (hfinite : ∀ x, a = .number x → x.isFinite) :
    decodeValue Answer.decode a.toValue = .ok a := by
  cases a with
  | null | bool | text => rfl
  | number x => rw [decode_number, if_pos (hfinite x rfl)]
  | list ts => exact decode_arr_texts (textsOf_map_str ts)
  | files fs =>
    obtain ⟨f, rest, rfl⟩ := List.exists_cons_of_ne_nil (fun h => hfiles (h ▸ rfl))
    -- a file record is an object, so the array is no list of texts
    exact decode_arr_files rfl
      (Tree.mapM_map_of_forall _ fun g hg => FileRef.decode_toValue g (hsizes g hg))

end Answer

/-! ## Settings -/

theorem Validation.Catalog.decode_toValue (c : Validation.Catalog) :
    Validation.Catalog.decode (m := Json.Tree) c.toValue = .ok c := rfl

theorem Config.decode_toValue (c : Config) (hd : c.maxConditionDepth ≤ Config.countMax)
    (hn : c.maxConditionNodes ≤ Config.countMax) :
    Config.decode (m := Json.Tree) c.toValue = .ok c := by
  unfold Config.decode Config.toValue
  refine Tree.record_obj "InterpreterConfig" (by simp) (fun _ h => nomatch h) ?_
  rw [Tree.foldlM_cons_of_readEntry { maxConditionDepth := c.maxConditionDepth }
      (by simp [Tree.readEntry, Tree.natUpTo_of_le hd]),
    Tree.foldlM_cons_of_readEntry
      { maxConditionDepth := c.maxConditionDepth, maxConditionNodes := c.maxConditionNodes }
      (by simp [Tree.readEntry, Tree.natUpTo_of_le hn]),
    Tree.foldlM_cons_of_readEntry c
      (by simp [Tree.readEntry, Validation.Catalog.decode_toValue c.messages])]
  rfl

/-! ## Reading back what was written -/

/-- **Reading back what was written.** A form, the interpreter's settings and
an answer, within what the crate's types can hold, read back as themselves,
condition trees of every depth included; except the two answers whose
written forms say less: an empty list of files reads as an empty list of
texts, and a number that is not finite, written as `null`, as no answer. -/
theorem decode_toValue_roundtrip :
    (∀ s : Schema, s.Representable → decodeValue Schema.decode s.toValue = .ok s) ∧
    (∀ c : Config, c.maxConditionDepth ≤ Config.countMax → c.maxConditionNodes ≤ Config.countMax →
      decodeValue Config.decode c.toValue = .ok c) ∧
    (∀ a : Answer, a.SizesFit → a ≠ .files [] → (∀ x, a = .number x → x.isFinite) →
      decodeValue Answer.decode a.toValue = .ok a) ∧
    decodeValue Answer.decode (Answer.files []).toValue = .ok (.list []) ∧
    (∀ x : Float, decodeValue Answer.decode (Answer.number x).toValue =
      .ok (if x.isFinite then .number x else .null)) :=
  ⟨Schema.decode_toValue, Config.decode_toValue, Answer.decode_toValue, rfl,
    Answer.decode_number⟩

/-- A one-page form with a bounded field and a rule whose condition sits two
groups deep, the default settings, and an answer of one file, read back. -/
theorem decode_toValue_roundtrip_sample :
    let form := (Schema.new [(Schema.Page.new "p" "P").withFields
      [(Schema.Field.new "name" .text).withValidation { maxLength := some 40 }]]).withRules
      [{ conditions := Rules.Group.all [.group .or [.leaf ⟨"name", .eq, .str "x"⟩]],
         actions := [⟨.hide, "name"⟩] }]
    let file := Answer.files [{ name := "a.pdf", size := some 1024 }]
    form.Representable ∧ decodeValue Schema.decode form.toValue = .ok form ∧
      decodeValue Config.decode ({} : Config).toValue = .ok {} ∧
      file.SizesFit ∧ decodeValue Answer.decode file.toValue = .ok file := by
  intro form file
  have hform : form.Representable := by
    refine ⟨(fun _ h => nomatch h), ?_, ?_⟩
    · intro f hf c hc
      simp [form, Schema.allFields, Schema.withRules, Schema.new,
        Schema.Page.fields, Schema.Page.withFields, Schema.Page.new, Schema.Field.withValidation] at hf
      subst hf
      cases hc
      exact ⟨nofun, fun n hn => by cases hn; decide, nofun, nofun, nofun, nofun⟩
    · intro r hr c hc
      simp [form, Schema.withRules] at hr
      subst hr
      simp [Rules.Group.leaves, Rules.Group.all, Rules.Group.toNode, Rules.Node.leaves,
        Rules.Node.leavesList] at hc
      subst hc
      exact .str "x"
  have hfile : file.SizesFit := fun f hf n hn => by
    simp at hf
    subst hf
    cases hn
    decide
  obtain ⟨hs, hc, ha, -, -⟩ := decode_toValue_roundtrip
  exact ⟨hform, hs form hform, hc {} (by decide) (by decide), hfile,
    ha file hfile (by simp [file]) (by simp [file])⟩

end Questionnaire
