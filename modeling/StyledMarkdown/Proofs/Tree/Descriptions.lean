import StyledMarkdown.Dump
import StyledMarkdown.Proofs.Builder.Shape
import StyledMarkdown.Proofs.Number.Digits
import StyledMarkdown.Proofs.Rendering.Ends
import StyledMarkdown.Proofs.Text.Quoting
import StyledMarkdown.Proofs.Tree.Splicing
/-!
# Descriptions of nodes

A dump describes a node by the name of its kind and some details, each
behind a space. A name and a numeral hold no space and a quoted text tells
itself where it ends, so the details can be told from the description, and
with the name they make up the node again: all of it but what is below it,
the title of a link or an image, and the marks of a fence.
-/

namespace StyledMarkdown

/-! ## Words -/

section Words

variable {word word' rest rest' : List Char}

/-- Nothing follows a word, or a space does. -/
def EndsWord (rest : List Char) : Prop := ∀ c ∈ rest.head?, c = ' '

/-- A word goes up to the first space. -/
theorem takeWhile_word (hword : ' ' ∉ word) (hrest : EndsWord rest) :
    (word ++ rest).takeWhile (· ≠ ' ') = word := by
  have hall : ∀ c ∈ word, decide (c ≠ ' ') = true :=
    fun c hc => decide_eq_true (ne_of_mem_of_not_mem hc hword)
  rw [List.takeWhile_append_of_pos hall]
  cases rest with
  | nil => exact List.append_nil word
  | cons c rest =>
    obtain rfl := hrest c rfl
    rw [List.takeWhile_cons_of_neg (by decide), List.append_nil]

/-- **A word and what follows it** can be told apart. -/
theorem word_append_inj (hword : ' ' ∉ word) (hword' : ' ' ∉ word') (hrest : EndsWord rest)
    (hrest' : EndsWord rest') (h : word ++ rest = word' ++ rest') :
    word = word' ∧ rest = rest' := by
  have htake := congrArg (List.takeWhile (· ≠ ' ')) h
  rw [takeWhile_word hword hrest, takeWhile_word hword' hrest'] at htake
  subst htake
  exact ⟨rfl, List.append_cancel_left h⟩

theorem space_not_mem_decimal (n : Int) : ' ' ∉ decimal n := fun h =>
  not_isBlank_of_mem_decimal h (by decide)

/-- A numeral is a word. -/
theorem decimal_append_inj {m n : Int} (hrest : EndsWord rest) (hrest' : EndsWord rest')
    (h : decimal m ++ rest = decimal n ++ rest') : m = n ∧ rest = rest' := by
  obtain ⟨hdecimal, hmore⟩ :=
    word_append_inj (space_not_mem_decimal m) (space_not_mem_decimal n) hrest hrest' h
  exact ⟨decimal_injective hdecimal, hmore⟩

end Words

/-! ## Details -/

/-- What a dump says of a node besides the name of its kind. -/
inductive Detail where
  | level (n : Nat)
  | start (n : Ordinal)
  | delimiter (c : Char)
  | marker (c : Char)
  | destination (s : String)
  | info (s : String)
  | literal (s : String)

namespace Detail

/-- What a detail is introduced by. -/
def key : Detail → String
  | level _ => "level="
  | start _ => "start="
  | delimiter _ => "delimiter="
  | marker _ => "marker="
  | destination _ => "destination="
  | info _ => "info="
  | literal _ => ""

/-- What stands behind the key. -/
def value : Detail → List Char
  | level n => decimal n
  | start n => decimal n.val
  | delimiter c | marker c => (Text.quotedChar c).toList
  | destination s | info s | literal s => (Text.quoted s).toList

/-- A detail as it stands in a dump. -/
def written (detail : Detail) : List Char := detail.key.toList ++ detail.value

variable {d e : Detail} {rest rest' : List Char} {details details' : List Detail}

/-- **A detail and what follows it** can be told apart: the details begin
differently, and each says where it ends. -/
theorem written_append_inj (hrest : EndsWord rest) (hrest' : EndsWord rest')
    (h : d.written ++ rest = e.written ++ rest') : d = e ∧ rest = rest' := by
  rw [written, written, List.append_assoc, List.append_assoc] at h
  cases d with
  | level n =>
    cases e with
    | level m =>
      obtain ⟨hn, hmore⟩ := decimal_append_inj hrest hrest' (List.append_cancel_left h)
      exact ⟨congrArg level (Int.ofNat.inj hn), hmore⟩
    | _ => simp [key, value, Text.quoted] at h
  | start n =>
    cases e with
    | start m =>
      obtain ⟨hn, hmore⟩ := decimal_append_inj hrest hrest' (List.append_cancel_left h)
      exact ⟨congrArg start (Saturating.ext_val hn), hmore⟩
    | _ => simp [key, value, Text.quoted] at h
  | delimiter c =>
    cases e with
    | delimiter c' =>
      obtain ⟨rfl, hmore⟩ := Text.quotedChar_selfDelimiting c c' _ _ (List.append_cancel_left h)
      exact ⟨rfl, hmore⟩
    | _ => simp [key, value, Text.quoted] at h
  | marker c =>
    cases e with
    | marker c' =>
      obtain ⟨rfl, hmore⟩ := Text.quotedChar_selfDelimiting c c' _ _ (List.append_cancel_left h)
      exact ⟨rfl, hmore⟩
    | _ => simp [key, value, Text.quoted] at h
  | destination s =>
    cases e with
    | destination s' =>
      obtain ⟨rfl, hmore⟩ := Text.quoted_selfDelimiting s s' _ _ (List.append_cancel_left h)
      exact ⟨rfl, hmore⟩
    | _ => simp [key, value, Text.quoted] at h
  | info s =>
    cases e with
    | info s' =>
      obtain ⟨rfl, hmore⟩ := Text.quoted_selfDelimiting s s' _ _ (List.append_cancel_left h)
      exact ⟨rfl, hmore⟩
    | _ => simp [key, value, Text.quoted] at h
  | literal s =>
    cases e with
    | literal s' =>
      obtain ⟨rfl, hmore⟩ := Text.quoted_selfDelimiting s s' _ _ (List.append_cancel_left h)
      exact ⟨rfl, hmore⟩
    | _ => simp [key, value, Text.quoted] at h

theorem lineEnd_not_mem_written (d : Detail) : '\n' ∉ d.written := by
  have hdecimal : ∀ n, '\n' ∉ decimal n := fun n h => not_isBlank_of_mem_decimal h (by decide)
  cases d with
  | level n | start n => simp [written, key, value, hdecimal]
  | delimiter c | marker c => simp [written, key, value, Text.lineEnd_not_mem_quotedChar]
  | destination s | info s | literal s =>
    simp [written, key, value, Text.lineEnd_not_mem_quoted]

theorem endsWord_flatMap (details : List Detail) :
    EndsWord (details.flatMap (' ' :: ·.written)) := by
  intro c hc
  cases details with
  | nil => cases hc
  | cons d details => exact (Option.some.inj hc).symm

/-- **The details of a description** can be told from it. -/
theorem flatMap_written_inj
    (h : details.flatMap (' ' :: ·.written) = details'.flatMap (' ' :: ·.written)) :
    details = details' := by
  induction details generalizing details' with
  | nil =>
    cases details' with
    | nil => rfl
    | cons e details' => cases h
  | cons d details ih =>
    cases details' with
    | nil => cases h
    | cons e details' =>
      obtain ⟨rfl, hmore⟩ := written_append_inj (endsWord_flatMap details)
        (endsWord_flatMap details') (List.cons.inj h).2
      rw [ih hmore]

end Detail

namespace Node

/-- **The details of a node.** -/
def details : Node → List Detail
  | heading level _ => [.level level]
  | orderedList start delimiter _ => [.start start, .delimiter delimiter]
  | bulletList marker _ => [.marker marker]
  | link destination _ _ | image destination _ _ => [.destination destination]
  | fencedCode fence literal =>
    if fence.info = "" then [.literal literal] else [.info fence.info, .literal literal]
  | indentedCode literal | htmlBlock literal | code literal | htmlInline literal
  | text literal => [.literal literal]
  | _ => []

/-- **A description is a name and details**, each behind a space. -/
theorem toList_describe (node : Node) : node.describe.toList =
    node.kindName.toList ++ node.details.flatMap (' ' :: ·.written) := by
  cases node with
  | heading level children =>
    have hlevel : decimal (level : Int) = Nat.toDigits 10 level := if_neg (by omega)
    simp [describe, details, literal?, kindName, Detail.written, Detail.key, Detail.value, hlevel,
      Nat.repr_eq_ofList_toDigits]
  | fencedCode fence literal =>
    by_cases hinfo : fence.info = ""
    · simp [describe, details, literal?, kindName, Detail.written, Detail.key, Detail.value, hinfo]
    · simp [describe, details, literal?, kindName, Detail.written, Detail.key, Detail.value, hinfo]
  | _ => simp [describe, details, literal?, kindName, Detail.written, Detail.key, Detail.value]

/-! ## Nodes -/

/-- **A node as its description shows it**: a link and an image without their
title, and a fence without the marks it is made of. -/
def shownHere : Node → Node
  | fencedCode fence literal => fencedCode { info := fence.info } literal
  | link destination _ children => link destination none children
  | image destination _ children => image destination none children
  | node => node

/-- A node as its description shows it, without what is below it. -/
def label (node : Node) : Node := node.shownHere.withChildren []

/-- **The label that a name and details make up.** -/
def ofDetails? : String → List Detail → Option Node
  | "Document", _ => some (document [])
  | "Heading", [.level level] => some (heading level [])
  | "Paragraph", _ => some (paragraph [])
  | "BlockQuote", _ => some (blockQuote [])
  | "OrderedList", [.start start, .delimiter delimiter] => some (orderedList start delimiter [])
  | "BulletList", [.marker marker] => some (bulletList marker [])
  | "ListItem", _ => some (listItem [])
  | "FencedCodeBlock", [.literal literal] => some (fencedCode { info := "" } literal)
  | "FencedCodeBlock", [.info info, .literal literal] => some (fencedCode { info } literal)
  | "IndentedCodeBlock", [.literal literal] => some (indentedCode literal)
  | "HtmlBlock", [.literal literal] => some (htmlBlock literal)
  | "Link", [.destination destination] => some (link destination none [])
  | "Image", [.destination destination] => some (image destination none [])
  | "Emphasis", _ => some (emphasis [])
  | "StrongEmphasis", _ => some (strong [])
  | "Code", [.literal literal] => some (code literal)
  | "HtmlInline", [.literal literal] => some (htmlInline literal)
  | "Text", [.literal literal] => some (text literal)
  | "SoftLineBreak", _ => some softBreak
  | "HardLineBreak", _ => some hardBreak
  | "ThematicBreak", _ => some thematicBreak
  | _, _ => none

variable {a b node : Node}

theorem ofDetails?_details (h : ¬ node.isUnsupported) :
    ofDetails? node.kindName node.details = some node.label := by
  cases node with
  | unsupported => exact absurd rfl h
  | fencedCode fence literal =>
    by_cases hinfo : fence.info = ""
    · rw [details, if_pos hinfo, label, shownHere, hinfo]
      rfl
    · rw [details, if_neg hinfo]
      rfl
  | _ => rfl

/-- **The name of a kind is a word** on one line. -/
theorem kindName_isWord (h : ¬ node.isUnsupported) : node.kindName.toList ≠ [] ∧
    ' ' ∉ node.kindName.toList ∧ '\n' ∉ node.kindName.toList := by
  cases node with
  | unsupported => exact absurd rfl h
  | _ => simp [kindName]

/-- A description begins with the name of the kind, so it begins with no space. -/
theorem ne_space_of_mem_head?_describe (h : ¬ node.isUnsupported) :
    ∀ c ∈ node.describe.toList.head?, c ≠ ' ' := by
  obtain ⟨hne, hspace, -⟩ := kindName_isWord h
  rw [toList_describe, List.head?_append_of_ne_nil _ hne]
  exact fun c hc => ne_of_mem_of_not_mem (List.mem_of_mem_head? hc) hspace

/-- **A description is on one line**, whatever the node holds. -/
theorem lineEnd_not_mem_describe (h : ¬ node.isUnsupported) : '\n' ∉ node.describe.toList := by
  rw [toList_describe, List.mem_append, List.mem_flatMap]
  rintro (hname | ⟨detail, -, hdetail⟩)
  · exact (kindName_isWord h).2.2 hname
  · exact detail.lineEnd_not_mem_written ((List.mem_cons.mp hdetail).resolve_left (by decide))

/-- **The label of a node is told by its description.** -/
theorem label_eq_of_describe_eq (ha : ¬ a.isUnsupported) (hb : ¬ b.isUnsupported)
    (h : a.describe.toList = b.describe.toList) : a.label = b.label := by
  rw [toList_describe, toList_describe] at h
  obtain ⟨hname, hdetails⟩ := word_append_inj (kindName_isWord ha).2.1
    (kindName_isWord hb).2.1 (Detail.endsWord_flatMap _) (Detail.endsWord_flatMap _) h
  have hlabel := ofDetails?_details ha
  rw [String.toList_injective hname, Detail.flatMap_written_inj hdetails,
    ofDetails?_details hb] at hlabel
  exact (Option.some.inj hlabel).symm

end Node

end StyledMarkdown
