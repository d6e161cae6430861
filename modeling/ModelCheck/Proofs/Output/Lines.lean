import ModelCheck.Output.Reader
import ModelCheck.Proofs.Frame
import ModelCheck.Proofs.Text.Decode

/-!
# Bytes as lines

The lines of output as bytes: each line feed ends one, and bytes that come after the last line feed
are a line too. Bytes may be divided into lines piece by piece, and the frame that a line is does not
depend on how the line ends.
-/

namespace ModelCheck.Output

open Text (Bytes decode lineFeed carriageReturn)

/-- Lines with bytes in front of the first one. Where there is no line, the bytes are one, unless
there are none. -/
def attach (front : Bytes) : List Bytes → List Bytes
  | [] => if front = [] then [] else [front]
  | line :: lines => (front ++ line) :: lines

/-- The lines of output, cut after each line feed. What comes after the last one is a line too. -/
def cutLines : Bytes → List Bytes
  | [] => []
  | b :: rest => if b = lineFeed then [b] :: cutLines rest else attach [b] (cutLines rest)

/-- The lines of output that a line feed ends. -/
def completeLines (content : Bytes) : List Bytes :=
  (cutLines content).filter fun line => line.getLast? = some lineFeed

/-- No bytes in front change nothing. -/
theorem attach_nil (lines : List Bytes) : attach [] lines = lines := by
  cases lines <;> rfl

/-- Bytes may be put in front in parts. -/
theorem attach_attach (front : Bytes) (b : UInt8) (lines : List Bytes) :
    attach front (attach [b] lines) = attach (front ++ [b]) lines := by
  cases lines with
  | nil => simp [attach]
  | cons line lines => simp [attach]

/-- Whether bytes are complete lines: there are none, or the last one is a line feed. -/
def Complete (content : Bytes) : Prop := content = [] ∨ content.getLast? = some lineFeed

instance (content : Bytes) : Decidable (Complete content) := inferInstanceAs (Decidable (_ ∨ _))

/-- The bytes behind the first one end as the whole does, if there are any. -/
theorem Complete.of_cons {b : UInt8} {rest : Bytes} (h : Complete (b :: rest)) : Complete rest := by
  cases rest with
  | nil => exact .inl rfl
  | cons c more =>
    rcases h with h | h
    · cases h
    · rw [List.getLast?_cons_cons] at h
      exact .inr h

/-- Complete lines behind complete lines are complete. -/
theorem Complete.append {content more : Bytes} (h : Complete content) (hmore : Complete more) :
    Complete (content ++ more) := by
  rcases hmore with rfl | hmore
  · rwa [List.append_nil]
  · exact .inr (by rw [List.getLast?_append, hmore, Option.some_or])

/-- Bytes in front go to the first line, so the lines behind it may be added later. -/
theorem attach_append (front : Bytes) {lines : List Bytes} (h : lines ≠ []) (more : List Bytes) :
    attach front (lines ++ more) = attach front lines ++ more := by
  obtain ⟨line, others, rfl⟩ := List.exists_cons_of_ne_nil h
  rfl

/-- Bytes have at least one line. -/
theorem cutLines_ne_nil {content : Bytes} (h : content ≠ []) : cutLines content ≠ [] := by
  obtain ⟨b, rest, rfl⟩ := List.exists_cons_of_ne_nil h
  rw [cutLines]
  split
  · exact List.cons_ne_nil _ _
  · cases cutLines rest with
    | nil => simp [attach]
    | cons line lines => exact List.cons_ne_nil _ _

/-- Complete lines are cut apart from what comes behind them. -/
theorem cutLines_append {content : Bytes} (h : Complete content) (more : Bytes) :
    cutLines (content ++ more) = cutLines content ++ cutLines more := by
  induction content with
  | nil => rfl
  | cons b rest ih =>
    rw [List.cons_append, cutLines, cutLines, ih h.of_cons]
    split
    · rfl
    · next hfeed =>
      -- the line at hand goes on, since its line feed is still to come
      have hrest : rest ≠ [] := by
        rintro rfl
        rcases h with h | h
        · cases h
        · exact hfeed (by simpa using h)
      exact attach_append [b] (cutLines_ne_nil hrest) _

/-- A line feed ends one line. -/
theorem cutLines_line {body : Bytes} (h : lineFeed ∉ body) :
    cutLines (body ++ [lineFeed]) = [body ++ [lineFeed]] := by
  induction body with
  | nil => rfl
  | cons b rest ih =>
    have hb : b ≠ lineFeed := fun hb => h (hb ▸ List.mem_cons_self)
    rw [List.cons_append, cutLines, if_neg hb, ih fun hrest => h (List.mem_cons_of_mem b hrest)]
    rfl

/-! ### Dividing -/

namespace Reader

/-- Pieces may be divided one after the other: what the first leaves stands in front of the second. -/
theorem divide_append (current first second : Bytes) :
    divide current (first ++ second) =
      ((divide current first).1 ++ (divide (divide current first).2.reverse second).1,
        (divide (divide current first).2.reverse second).2) := by
  induction first generalizing current with
  | nil => simp only [List.nil_append, divide, List.reverse_reverse]
  | cons b rest ih =>
    simp only [List.cons_append, divide]
    split
    · rw [ih]
      rfl
    · exact ih _

/-- A line that is divided off ends with a line feed. -/
theorem getLast?_of_mem_divide {current content line : Bytes}
    (h : line ∈ (divide current content).1) : line.getLast? = some lineFeed := by
  induction content generalizing current with
  | nil => cases h
  | cons b rest ih =>
    rw [divide] at h
    split at h
    · next hfeed =>
      rcases List.mem_cons.mp h with rfl | h
      · rw [List.reverse_cons, List.getLast?_concat, hfeed]
      · exact ih h
    · exact ih h

/-- What is left contains no line feed. -/
theorem lineFeed_not_mem_divide {current : Bytes} (hcurrent : lineFeed ∉ current)
    (content : Bytes) : lineFeed ∉ (divide current content).2 := by
  induction content generalizing current with
  | nil => exact fun h => hcurrent (List.mem_reverse.mp h)
  | cons b rest ih =>
    rw [divide]
    split
    · exact ih List.not_mem_nil
    · next hfeed =>
      refine ih fun h => ?_
      rcases List.mem_cons.mp h with h | h
      · exact hfeed h.symm
      · exact hcurrent h

/-- The lines that are divided off, and what is left as the last one, are the lines of the output. -/
theorem divide_cut (current content : Bytes) :
    (divide current content).1 ++ attach (divide current content).2 [] =
      attach current.reverse (cutLines content) := by
  induction content generalizing current with
  | nil => rfl
  | cons b rest ih =>
    rw [divide, cutLines]
    split
    · rw [List.cons_append, ih, List.reverse_nil, attach_nil, List.reverse_cons, attach]
    · rw [ih, attach_attach, List.reverse_cons]

end Reader

open Reader

/-- Cutting gives the lines that are divided off, and what is left as one line more if it is anything.
-/
theorem cutLines_eq (content : Bytes) :
    cutLines content = (divide [] content).1 ++ attach (divide [] content).2 [] := by
  rw [divide_cut, List.reverse_nil, attach_nil]

example : cutLines [0x61, lineFeed, lineFeed, 0x62] = [[0x61, lineFeed], [lineFeed], [0x62]] := by
  decide

/-- The complete lines are those that are divided off. -/
theorem completeLines_eq (content : Bytes) : completeLines content = (divide [] content).1 := by
  have hlast : (attach (divide [] content).2 []).filter
      (fun line => line.getLast? = some lineFeed) = [] := by
    refine List.filter_eq_nil_iff.mpr fun line hline => ?_
    rw [attach] at hline
    split at hline
    · cases hline
    · obtain rfl := List.mem_singleton.mp hline
      intro h
      exact lineFeed_not_mem_divide List.not_mem_nil content
        (List.mem_of_getLast? (of_decide_eq_true h))
  rw [completeLines, cutLines_eq, List.filter_append, hlast, List.append_nil]
  exact List.filter_eq_self.mpr fun line hline => decide_eq_true (getLast?_of_mem_divide hline)

/-! ### Endings -/

/-- The frame that a line of bytes is. -/
def lineFrame (line : Bytes) : Frame := Frame.classify (decode line)

/-- The frame of a line does not depend on the line feed at its end. -/
theorem lineFrame_lineFeed (line : Bytes) : lineFrame (line ++ [lineFeed]) = lineFrame line := by
  have hdecode : decode (line ++ [lineFeed]) = decode line ++ ['\n'] := by
    rw [Text.decode_append (by decide), decode]
    rfl
  rw [lineFrame, hdecode, Frame.classify_append (by simp), lineFrame]

/-- Nor on a carriage return before the line feed. -/
theorem lineFrame_carriageReturn (line : Bytes) :
    lineFrame (line ++ [carriageReturn, lineFeed]) = lineFrame (line ++ [lineFeed]) := by
  have hdecode : decode (line ++ [carriageReturn, lineFeed]) = decode line ++ ['\r', '\n'] := by
    rw [Text.decode_append (by decide), Text.decode_cons_of_lt (by decide), decode]
    rfl
  rw [lineFrame_lineFeed, lineFrame, hdecode, Frame.classify_append (by simp), lineFrame]

/-- The second bytes are the first ones with a carriage return put before some of the line feeds. -/
inductive MoreReturns : Bytes → Bytes → Prop
  | nil : MoreReturns [] []
  | keep (b : UInt8) {content content' : Bytes} (h : MoreReturns content content') :
    MoreReturns (b :: content) (b :: content')
  | put {content content' : Bytes} (h : MoreReturns content content') :
    MoreReturns (lineFeed :: content) (carriageReturn :: lineFeed :: content')

/-- Carriage returns before line feeds change no frame and leave the same at the end. -/
theorem divide_of_moreReturns {content content' : Bytes} (h : MoreReturns content content')
    (current : Bytes) :
    (divide current content').1.map lineFrame = (divide current content).1.map lineFrame ∧
      (divide current content').2 = (divide current content).2 := by
  induction h generalizing current with
  | nil => exact ⟨rfl, rfl⟩
  | keep b h ih =>
    rw [divide, divide]
    split
    · exact ⟨congrArg (lineFrame _ :: ·) (ih []).1, (ih []).2⟩
    · exact ih _
  | put h ih =>
    have hframe : lineFrame (lineFeed :: carriageReturn :: current).reverse =
        lineFrame (lineFeed :: current).reverse := by
      simp only [List.reverse_cons, List.append_assoc]
      exact lineFrame_carriageReturn current.reverse
    rw [divide, if_neg (by decide), divide, if_pos rfl, divide, if_pos rfl]
    exact ⟨congrArg₂ List.cons hframe (ih []).1, (ih []).2⟩

/-- Content may be left as it is. -/
theorem MoreReturns.refl (content : Bytes) : MoreReturns content content := by
  induction content with
  | nil => exact .nil
  | cons b rest ih => exact .keep b ih

/-- One carriage return may be put before a line feed anywhere. -/
theorem MoreReturns.one (before rest : Bytes) :
    MoreReturns (before ++ lineFeed :: rest) (before ++ carriageReturn :: lineFeed :: rest) := by
  induction before with
  | nil => exact .put (.refl rest)
  | cons b before ih => exact .keep b ih

/-- The second bytes are the first ones with other endings of lines: with a carriage return before
some of the line feeds, or without the line feed of a last line that has another byte. -/
inductive OtherEndings : Bytes → Bytes → Prop
  | returns {content content' : Bytes} (h : MoreReturns content content') :
    OtherEndings content content'
  | unended (before : Bytes) {x : UInt8} (hx : x ≠ lineFeed) :
    OtherEndings (before ++ [x, lineFeed]) (before ++ [x])

/-- A last line with another byte is the same line without its line feed. -/
theorem cutLines_unended (before : Bytes) {x : UInt8} (hx : x ≠ lineFeed) :
    (cutLines (before ++ [x])).map lineFrame =
      (cutLines (before ++ [x, lineFeed])).map lineFrame := by
  have hunended : divide (divide [] before).2.reverse [x] = ([], (divide [] before).2 ++ [x]) := by
    rw [divide, if_neg hx, divide, List.reverse_cons, List.reverse_reverse]
  have hended : divide (divide [] before).2.reverse [x, lineFeed] =
      ([(divide [] before).2 ++ [x] ++ [lineFeed]], []) := by
    rw [divide, if_neg hx, divide, if_pos rfl, divide, List.reverse_cons, List.reverse_cons,
      List.reverse_reverse, List.reverse_nil]
  have hlast : attach ((divide [] before).2 ++ [x]) [] = [(divide [] before).2 ++ [x]] :=
    if_neg (by simp)
  rw [cutLines_eq, cutLines_eq, divide_append, divide_append, hunended, hended, hlast]
  simp only [List.map_append, List.map_cons, List.map_nil, List.append_nil, attach_nil,
    lineFrame_lineFeed]

/-- The frames of the lines do not depend on how the lines end. -/
theorem OtherEndings.cutLines {content content' : Bytes} (h : OtherEndings content content') :
    (cutLines content').map lineFrame = (cutLines content).map lineFrame := by
  cases h with
  | returns h =>
    obtain ⟨hlines, hlast⟩ := divide_of_moreReturns h []
    rw [cutLines_eq, cutLines_eq, List.map_append, List.map_append, hlines, hlast]
  | unended before hx => exact cutLines_unended before hx

end ModelCheck.Output
