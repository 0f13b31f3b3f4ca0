import ImportHooks.Proofs.Jsonc.Strip
import ImportHooks.Proofs.Json.Reading

namespace ImportHooks.Jsonc
open Text Json

theorem Stripper.finish_document {ts : List Token} {text : Text} (laid : Laid Spaces Spaces ts text) {s : Stripper}
    {base : Text} (stands : Stands s base ts) (proper : ∀ t ∈ ts, t.Proper) (chain : ts.IsChain Reader.Follows) :
    (text.foldl feed s).finish = base ++ text := by
  induction laid generalizing s base with
  | done gap => exact (stands.spaces gap).finish
  | @token gap t ts rest before laid ih =>
    have after := (stands.spaces before).next (proper t List.mem_cons_self) (closes_after_comma chain)
    have finished := ih after (fun u member => proper u (List.mem_cons_of_mem t member)) chain.tail
    rw [List.foldl_append, List.foldl_append, finished]
    simp only [List.append_assoc]

theorem strip_written {tree : Tree} {text : Text} (written : tree.Written text) : strip text = text :=
  Stripper.finish_document written.laid (.start tree.tokens) written.proper tree.tokens_chain

theorem documents_strip_to_themselves (text : Text) :
    (IsDocument text → strip text = text) ∧ (IsDocument (strip text) → strip (strip text) = strip text) := by
  have unchanged (plain : Text) : IsDocument plain → strip plain = plain := fun ⟨_, written⟩ => strip_written written
  exact ⟨unchanged text, unchanged (strip text)⟩

-- The text is `{"/*" : ["\",]//", 1]}`, and for the second half `[[1,],/*,*/]//`.
theorem marks_in_texts_stay :
    IsDocument ['\x7b', '"', '/', '*', '"', ' ', ':', ' ', '[', '"', '\\', '"', ',', ']', '/', '/', '"', ',', ' ', '1', ']', '\x7d'] ∧
      strip ['\x7b', '"', '/', '*', '"', ' ', ':', ' ', '[', '"', '\\', '"', ',', ']', '/', '/', '"', ',', ' ', '1', ']', '\x7d'] =
        ['\x7b', '"', '/', '*', '"', ' ', ':', ' ', '[', '"', '\\', '"', ',', ']', '/', '/', '"', ',', ' ', '1', ']', '\x7d'] ∧
      IsDocument (strip ['[', '[', '1', ',', ']', ',', '/', '*', ',', '*', '/', ']', '/', '/']) ∧
      strip (strip ['[', '[', '1', ',', ']', ',', '/', '*', ',', '*', '/', ']', '/', '/']) =
        strip ['[', '[', '1', ',', ']', ',', '/', '*', ',', '*', '/', ']', '/', '/'] := by
  have plain : IsDocument
      ['\x7b', '"', '/', '*', '"', ' ', ':', ' ', '[', '"', '\\', '"', ',', ']', '/', '/', '"', ',', ' ', '1', ']', '\x7d'] := by
    decide +kernel
  have stripped : IsDocument (strip ['[', '[', '1', ',', ']', ',', '/', '*', ',', '*', '/', ']', '/', '/']) := by decide +kernel
  exact ⟨plain, (documents_strip_to_themselves _).1 plain, stripped, (documents_strip_to_themselves _).2 stripped⟩

example : strip [',', ',', ']'] = [',', ']'] ∧ strip (strip [',', ',', ']']) = [']'] := by decide

end ImportHooks.Jsonc
