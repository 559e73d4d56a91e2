import Stubwright.Proofs.Script.Declaration
import Stubwright.Stub

/-!
Whole files. Fragments that are each read as a declaration can be put into blocks, and the blocks
below the notice, and the file is read as the outline of their symbols.
-/

namespace Stubwright

namespace Script

/-- A text that is read as a declaration of the symbol, whatever follows it. -/
def Declares (text : Text) (symbol : Symbol) : Prop :=
  ∀ suffix, declaration (text ++ suffix) = some (symbol, suffix)

theorem is_trivia_blank_line : IsTrivia (Text.ofString "\n\n") := is_trivia_spaces _ (by decide)

theorem Declares.skips {lead text : Text} {symbol : Symbol} (declares : Declares text symbol)
    (isTrivia : IsTrivia lead) : Declares (lead ++ text) symbol := by
  intro suffix
  rw [List.append_assoc, declaration_skips isTrivia, declares]

theorem Declares.nonempty {text suffix : Text} {symbol : Symbol} (declares : Declares text symbol)
    (stops : declaration suffix = none) : text ≠ [] := by
  rintro rfl
  have read := declares suffix
  rw [List.nil_append, stops] at read
  exact absurd read (by simp)

theorem declarations_in_order (pieces : List (Text × Symbol))
    (each : ∀ piece ∈ pieces, Declares piece.1 piece.2) {suffix : Text}
    (stops : declaration suffix = none) :
    many declaration (pieces.flatMap Prod.fst ++ suffix) =
      some (pieces.map Prod.snd, suffix) := by
  apply many_reads pieces Prod.fst Prod.snd (fun _ => True) _ _ trivial stops
  · intro piece member following _
    exact each piece member following
  · intro piece member
    exact ⟨(each piece member).nonempty stops, fun _ => trivial⟩

/-- Blank lines between declarations mean nothing, and neither does what stands in front. -/
theorem joined_reads {lead : Text} (isTrivia : IsTrivia lead) (first : Text × Symbol)
    (others : List (Text × Symbol))
    (each : ∀ piece ∈ first :: others, Declares piece.1 piece.2) {suffix : Text}
    (stops : declaration suffix = none) :
    many declaration
        (lead ++ (Partition.joined ((first :: others).map Prod.fst) ++ suffix)) =
      some ((first :: others).map Prod.snd, suffix) := by
  have read := declarations_in_order ((lead ++ first.1, first.2) ::
    others.map fun piece => (Text.ofString "\n\n" ++ piece.1, piece.2)) (by
      intro piece member
      rcases List.mem_cons.1 member with rfl | later
      · exact (each first (by simp)).skips isTrivia
      · obtain ⟨other, among, rfl⟩ := List.mem_map.1 later
        exact (each other (by simp [among])).skips is_trivia_blank_line) stops
  have text : lead ++ (Partition.joined ((first :: others).map Prod.fst) ++ suffix) =
      ((lead ++ first.1, first.2) :: others.map fun piece =>
        (Text.ofString "\n\n" ++ piece.1, piece.2)).flatMap Prod.fst ++ suffix := by
    rw [Partition.joined, List.map_cons, Text.join_with_cons, List.flatMap_cons, List.flatMap_map,
      List.flatMap_map]
    simp only [List.append_assoc]
  rw [text, read, List.map_cons, List.map_cons, List.map_map]
  rfl

/-- The declarations of a namespace block, between its braces. -/
theorem braced_reads (pieces : List (Text × Symbol))
    (each : ∀ piece ∈ pieces, Declares piece.1 piece.2) (suffix : Text) :
    declarations (Text.ofString " \x7b\n" ++ (Partition.joined (pieces.map Prod.fst) ++
      (Text.ofString "\n\x7d" ++ suffix))) = some (pieces.map Prod.snd, suffix) := by
  have opens : ∀ rest, symbol '\x7b' (Text.ofString " \x7b\n" ++ rest) =
      some ((), Text.ofString "\n" ++ rest) := fun _ => rfl
  -- Without a declaration the line break after the brace is left for what follows.
  cases pieces with
  | nil =>
      have nothing : many declaration (Text.ofString "\n" ++ (Text.ofString "\n\x7d" ++ suffix)) =
          some ([], Text.ofString "\n" ++ (Text.ofString "\n\x7d" ++ suffix)) :=
        declarations_in_order [] (by simp) rfl
      have closes : symbol '\x7d' (Text.ofString "\n" ++ (Text.ofString "\n\x7d" ++ suffix)) =
          some ((), suffix) := rfl
      rw [declarations, bind_of _ (opens _)]
      change (many declaration >>= _) (Text.ofString "\n" ++ (Text.ofString "\n\x7d" ++ suffix)) = _
      rw [bind_of _ nothing, bind_of _ closes]
      rfl
  | cons first others =>
      have lead : IsTrivia (Text.ofString "\n") := is_trivia_spaces _ (by decide)
      have read := joined_reads lead first others each
        (rfl : declaration (Text.ofString "\n\x7d" ++ suffix) = none)
      have closes : symbol '\x7d' (Text.ofString "\n\x7d" ++ suffix) = some ((), suffix) := rfl
      rw [declarations, bind_of _ (opens _), bind_of _ read, bind_of _ closes]
      rfl

def Block.texts (block : Text × List (Text × Symbol)) : Text × List Text :=
  (block.1, block.2.map Prod.fst)

def Block.symbols (block : Text × List (Text × Symbol)) : Text × List Symbol :=
  (block.1, block.2.map Prod.snd)

def Block.text (block : Text × List (Text × Symbol)) : Text :=
  Partition.block ("namespace " ++ block.1) (block.2.map Prod.fst)

theorem namespace_block_skips {lead : Text} (isTrivia : IsTrivia lead) (text : Text) :
    namespaceBlock (lead ++ text) = namespaceBlock text :=
  bind_congr _ (keyword_skips isTrivia text "namespace")

theorem namespace_block_reads (block : Text × List (Text × Symbol))
    (isQualified : IsQualified block.1) (each : ∀ piece ∈ block.2, Declares piece.1 piece.2)
    (suffix : Text) :
    namespaceBlock (Block.text block ++ suffix) = some (Block.symbols block, suffix) := by
  have inside := braced_reads block.2 each suffix
  have atBraces : EndsName (Text.ofString " \x7b\n" ++
      (Partition.joined (block.2.map Prod.fst) ++ (Text.ofString "\n\x7d" ++ suffix))) :=
    .of_cons _ rfl (by decide)
  have text : Block.text block ++ suffix = Text.ofString "namespace " ++ (block.1 ++
      (Text.ofString " \x7b\n" ++
        (Partition.joined (block.2.map Prod.fst) ++ (Text.ofString "\n\x7d" ++ suffix)))) := by
    rw [Block.text, Partition.block]
    simp only [List.append_assoc]
  have word : ∀ rest, keyword "namespace" (Text.ofString "namespace " ++ rest) =
      some ((), Text.ofString " " ++ rest) := fun _ => rfl
  -- Unlike every other reader, the one of a qualified name does not skip blanks itself.
  have atName := (trivia_skips is_trivia_blank _).trans
    ((qualified_starts isQualified).append (Text.ofString " \x7b\n" ++
      (Partition.joined (block.2.map Prod.fst) ++ (Text.ofString "\n\x7d" ++ suffix)))).trivia
  rw [text, namespaceBlock, bind_of _ (word _), bind_of _ atName,
    bind_of _ (qualified_append isQualified atBraces), bind_of _ inside]
  rfl

/-- Code of the global scope beside namespaces has a block of its own. -/
theorem global_block_reads (globals : List (Text × Symbol))
    (each : ∀ piece ∈ globals, Declares piece.1 piece.2) (suffix : Text) :
    globalBlock (Text.ofString "\n\n" ++
        (Partition.block "namespace" (globals.map Prod.fst) ++ suffix)) =
      some (some (globals.map Prod.snd), suffix) := by
  have inside := braced_reads globals each suffix
  have text : Text.ofString "\n\n" ++
      (Partition.block "namespace" (globals.map Prod.fst) ++ suffix) =
        Text.ofString "\n\nnamespace" ++ (Text.ofString " \x7b\n" ++
          (Partition.joined (globals.map Prod.fst) ++ (Text.ofString "\n\x7d" ++ suffix))) := by
    rw [Partition.block]
    simp only [List.append_assoc]
    rfl
  have word : ∀ rest, keyword "namespace"
      (Text.ofString "\n\nnamespace" ++ (Text.ofString " \x7b\n" ++ rest)) =
        some ((), Text.ofString " \x7b\n" ++ rest) := fun _ => rfl
  rw [text, globalBlock]
  apply or_of
  rw [bind_of _ (word _), bind_of _ inside]
  rfl

/-- A script that starts with a namespace block has no bare declarations. -/
theorem bare_outline_none (text : Text) :
    bareOutline (Text.ofString "\n\nnamespace " ++ text) = none := by
  have nothing : many declaration (Text.ofString "\n\nnamespace " ++ text) =
      some ([], Text.ofString "\n\nnamespace " ++ text) :=
    declarations_in_order [] (by simp) rfl
  have shown : trivia (Text.ofString "\n\nnamespace " ++ text) =
      some ((), Text.ofString "namespace " ++ text) := rfl
  rw [bareOutline, bind_of _ nothing, bind_of _ shown]
  rfl

/-- A line break keeps what follows a text from closing a comment with it. -/
theorem unclosed_before_line (text rest : Text) (unclosed : Text.occursIn "*/" text = false)
    (unclosedRest : Text.occursIn "*/" rest = false) :
    Text.occursIn "*/" (text ++ .char '\n' :: rest) = false := by
  induction text with
  | nil =>
      rw [List.nil_append, Text.occursIn, unclosedRest]
      rfl
  | cons point text ih =>
      rw [Text.occursIn, Bool.or_eq_false_iff] at unclosed
      have later := ih unclosed.2
      rw [List.cons_append, Text.occursIn, later, Bool.or_false, ← unclosed.1]
      cases text with
      | nil => rfl
      | cons second text => rfl

/-- The header writes a blank before the notice and a line break after it, so no closing mark comes
of the notice and what stands around it. -/
theorem header_unclosed {settings : Settings}
    (isNotice : Settings.isNotice settings.notice = true) :
    Text.occursIn "*/" (Text.ofString "\n * " ++ settings.notice ++ Text.ofString "\n " ++ "*") =
      false := by
  have unclosed : Text.occursIn "*/" settings.notice = false := by
    unfold Settings.isNotice at isNotice
    simpa using isNotice
  have inner := unclosed_before_line settings.notice (Text.ofString " *") unclosed (by decide)
  simp only [List.append_assoc]
  exact inner

theorem opening_reads (settings : Settings) (isNotice : Settings.isNotice settings.notice = true)
    (rest : Text) : opening (Partition.header settings ++ rest) =
      some ((), Text.ofString "\n\n" ++ rest) := by
  have comment := after_comment (Text.ofString "\n * " ++ settings.notice ++ Text.ofString "\n ")
    (Text.ofString "\n\n" ++ rest) (header_unclosed isNotice)
  have text : Partition.header settings ++ rest = Text.ofString "<?php\n/**" ++
      (Text.ofString "\n * " ++ settings.notice ++ Text.ofString "\n " ++
        .char '*' :: .char '/' :: (Text.ofString "\n\n" ++ rest)) := by
    rw [Partition.header]
    simp only [List.append_assoc]
    rfl
  have start : ∀ after, opening (Text.ofString "<?php\n/**" ++ after) =
      (afterComment after).map fun rest => ((), rest) := fun _ => rfl
  rw [text, start, comment]
  rfl

theorem render_of_blocks (settings : Settings) (partition : Partition) (first : Text)
    (others : List Text) (blocks : partition.blocks = first :: others) :
    partition.render settings = Partition.header settings ++ (first ++
      (others.flatMap (Text.ofString "\n\n" ++ ·) ++ Text.ofString "\n")) := by
  rw [Partition.render, blocks, List.isEmpty_cons, if_neg Bool.false_ne_true, Partition.joined,
    Text.join_with_cons]
  simp only [List.append_assoc]

def afterBlocks (globals : List Text) : Text :=
  Text.when (!globals.isEmpty) (Text.ofString "\n\n" ++ Partition.block "namespace" globals) ++
    Text.ofString "\n"

theorem render_with_blocks (settings : Settings) (first : Text × List (Text × Symbol))
    (others : List (Text × List (Text × Symbol))) (globals : List Text) :
    Partition.render settings ⟨(first :: others).map Block.texts, globals⟩ =
      Partition.header settings ++ (Block.text first ++
        (others.flatMap (fun block => Text.ofString "\n\n" ++ Block.text block) ++
          afterBlocks globals)) := by
  have inner : (Partition.mk ((first :: others).map Block.texts) globals).blocks =
      Block.text first :: (others.map Block.text ++
        if globals.isEmpty then [] else [Partition.block "namespace" globals]) := by
    simp [Partition.blocks, Partition.globalBlock, Function.comp_def, Block.texts, Block.text]
  rw [render_of_blocks settings _ _ _ inner, List.flatMap_append, List.flatMap_map, afterBlocks,
    List.append_assoc]
  cases globals with
  | nil => rfl
  | cons global globals => simp [Text.when]

/-- Code of the global scope stands bare where there is no namespace beside it. -/
def Outline.ofSymbols (scopes : List (Text × List Symbol)) (globals : List Symbol) : Outline :=
  if scopes.isEmpty then .bare globals
  else .blocks scopes (if globals.isEmpty then none else some globals)

theorem after_blocks_reads (globals : List (Text × Symbol))
    (each : ∀ piece ∈ globals, Declares piece.1 piece.2) :
    namespaceBlock (afterBlocks (globals.map Prod.fst)) = none ∧
      globalBlock (afterBlocks (globals.map Prod.fst)) =
        some (if globals.isEmpty then none else some (globals.map Prod.snd),
          Text.ofString "\n") := by
  cases globals with
  | nil => exact ⟨rfl, rfl⟩
  | cons global globals =>
      have text : afterBlocks ((global :: globals).map Prod.fst) =
          Text.ofString "\n\n" ++ (Partition.block "namespace" ((global :: globals).map Prod.fst) ++
            Text.ofString "\n") := by
        rw [← List.append_assoc]
        rfl
      rw [text]
      exact ⟨rfl, global_block_reads (global :: globals) each (Text.ofString "\n")⟩

section

variable (settings : Settings) (isNotice : Settings.isNotice settings.notice = true)

theorem block_outline_reads (first : Text × List (Text × Symbol))
    (others : List (Text × List (Text × Symbol)))
    (scopes : ∀ block ∈ first :: others, IsQualified block.1)
    (each : ∀ block ∈ first :: others, ∀ piece ∈ block.2, Declares piece.1 piece.2)
    {rest : Text} {globals : Option (List Symbol)} (stops : namespaceBlock rest = none)
    (last : globalBlock rest = some (globals, Text.ofString "\n")) :
    blockOutline (Text.ofString "\n\n" ++ (Block.text first ++
        (others.flatMap (fun block => Text.ofString "\n\n" ++ Block.text block) ++ rest))) =
      some (.blocks ((first :: others).map Block.symbols) globals, []) := by
  have firstRead := namespace_block_reads first (scopes first (by simp)) (each first (by simp))
    (others.flatMap (fun block => Text.ofString "\n\n" ++ Block.text block) ++ rest)
  rw [← namespace_block_skips is_trivia_blank_line] at firstRead
  have othersRead : many namespaceBlock
      (others.flatMap (fun block => Text.ofString "\n\n" ++ Block.text block) ++ rest) =
        some (others.map Block.symbols, rest) := by
    apply many_reads others _ Block.symbols (fun _ => True) _ _ trivial stops
    · intro block member suffix _
      rw [List.append_assoc, namespace_block_skips is_trivia_blank_line]
      exact namespace_block_reads block (scopes block (by simp [member]))
        (each block (by simp [member])) suffix
    · intro block _
      exact ⟨by simp [Text.ofString, Text.ofChars], fun _ => trivial⟩
  rw [blockOutline, bind_of _ firstRead, bind_of _ othersRead, bind_of _ last]
  rfl

include isNotice

theorem bare_file_reads (globals : List (Text × Symbol))
    (each : ∀ piece ∈ globals, Declares piece.1 piece.2) :
    read (Partition.render settings ⟨[], globals.map Prod.fst⟩) =
      some (.bare (globals.map Prod.snd)) := by
  cases globals with
  | nil =>
      have opened := opening_reads settings isNotice []
      rw [List.append_nil] at opened
      change (file (Partition.header settings)).map Prod.fst = _
      rw [file, bind_of _ opened]
      rfl
  | cons first others =>
      have inside := joined_reads is_trivia_blank_line first others each
        (rfl : declaration (Text.ofString "\n") = none)
      have bare : bareOutline (Text.ofString "\n\n" ++
          (Partition.joined ((first :: others).map Prod.fst) ++ Text.ofString "\n")) =
            some (.bare ((first :: others).map Prod.snd), []) := by
        rw [bareOutline, bind_of _ inside]
        rfl
      have text : Partition.render settings ⟨[], (first :: others).map Prod.fst⟩ =
          Partition.header settings ++
            (Partition.joined ((first :: others).map Prod.fst) ++ Text.ofString "\n") := by
        rw [render_of_blocks settings _ _ [] rfl]
        rfl
      rw [text, read, file, bind_of _ (opening_reads settings isNotice _), or_of _ bare]
      rfl

/-- A file is read as the outline of what its fragments declare. -/
theorem file_reads (blocks : List (Text × List (Text × Symbol))) (globals : List (Text × Symbol))
    (scopes : ∀ block ∈ blocks, IsQualified block.1)
    (each : ∀ block ∈ blocks, ∀ piece ∈ block.2, Declares piece.1 piece.2)
    (eachGlobal : ∀ piece ∈ globals, Declares piece.1 piece.2) :
    read (Partition.render settings ⟨blocks.map Block.texts, globals.map Prod.fst⟩) =
      some (Outline.ofSymbols (blocks.map Block.symbols) (globals.map Prod.snd)) := by
  cases blocks with
  | nil => exact bare_file_reads settings isNotice globals eachGlobal
  | cons first others =>
      obtain ⟨stops, last⟩ := after_blocks_reads globals eachGlobal
      have blocksRead := block_outline_reads first others scopes each stops last
      have notBare : bareOutline (Text.ofString "\n\n" ++ (Block.text first ++
          (others.flatMap (fun block => Text.ofString "\n\n" ++ Block.text block) ++
            afterBlocks (globals.map Prod.fst)))) = none := by
        rw [Block.text, Partition.block]
        simp only [List.append_assoc]
        exact bare_outline_none _
      rw [render_with_blocks, read, file, bind_of _ (opening_reads settings isNotice _),
        or_none _ notBare, blocksRead, Outline.ofSymbols, List.isEmpty_map, List.isEmpty_map]
      rfl

end

example : read "<?php\n/** */\n\nnamespace A \x7b\n\x7d\n\nconst B=1;\n" = none := by
  decide +kernel

end Script

end Stubwright
