import IfaceGen.Proofs.Types.Editing
import IfaceGen.Proofs.Types.Nesting

/-!
# Reading what was written

A model that was written is read as the same model, and so is its document after any edits. Readers
with a limit refuse the document only if it nests too deep.

## Key results

- `GoType.decodeWithin_encode` / `Signature.decodeWithin_encode` / `Package.decodeWithin_encode`:
  writing and reading under a limit
- `decode_edits`: an edited document is read as the model that was written
-/

namespace IfaceGen

open Data

theorem GoType.decodeWithin_encode {type : GoType} {limit : Nat} (h : type.encode.depth ≤ limit) :
    GoType.decodeWithin limit type.encode = some type := by
  rw [GoType.decodeWithin_eq (type.holdable_encode.readable h), type.decode_encode]

theorem Signature.decodeWithin_encode {signature : Signature} {limit : Nat}
    (h : signature.encode.depth ≤ limit) :
    Signature.decodeWithin limit signature.encode = some signature := by
  rw [Signature.decodeWithin_eq (signature.holdable_encode.readable h), signature.read_encode]

theorem Package.decodeWithin_encode {package : Package} {limit : Nat}
    (h : package.encode.depth ≤ limit) :
    Package.decodeWithin limit package.encode = some package := by
  rw [Package.decodeWithin_eq (package.holdable_encode.readable h), package.decode_encode]

/-- A type, a signature or a package that was written is read again as it was, whatever `Edits` were
    made to the document, or none. Readers with a limit do so as long as the document is `readable`
    within it. -/
theorem decode_edits :
    (∀ (type : GoType) (document : Data), Edits (.one .type) type.encode document →
      GoType.decode false document = some type ∧
        ∀ limit, document.readable limit = true →
          GoType.decodeWithin limit document = some type) ∧
    (∀ (signature : Signature) (document : Data),
      Edits (.one .signature) signature.encode document →
        Signature.read (GoType.decode false) document = some signature ∧
          ∀ limit, document.readable limit = true →
            Signature.decodeWithin limit document = some signature) ∧
    (∀ (package : Package) (document : Data), Edits (.one .package) package.encode document →
      Package.decode document = some package ∧
        ∀ limit, document.readable limit = true →
          Package.decodeWithin limit document = some package) := by
  refine ⟨fun type document hedits => ?_, fun signature document hedits => ?_,
    fun package document hedits => ?_⟩
  · -- An edited document is read like the one that was written; the limit has no part where nothing
    -- nests too deep.
    have hread : GoType.decode false document = some type :=
      hedits.refines false type (type.decode_encode false)
    exact ⟨hread, fun limit hlimit => (GoType.decodeWithin_eq hlimit).trans hread⟩
  · have hread : Signature.read (GoType.decode false) document = some signature :=
      hedits.refines false signature (signature.read_encode false)
    exact ⟨hread, fun limit hlimit => (Signature.decodeWithin_eq hlimit).trans hread⟩
  · have hread : Package.decode document = some package :=
      hedits.refines false package package.decode_encode
    exact ⟨hread, fun limit hlimit => (Package.decodeWithin_eq hlimit).trans hread⟩

/-! A package with a queue, and a document for it in another order, without some of the defaults and
with fields of its own. -/

namespace Queue

def int : GoType := .basic "int"

def channel : GoType := .chan .both int

def channelDocument : Data :=
  .record [("elem", int.encode), ("kind", .str "chan")]

theorem edits_channel : Edits (.one .type) channel.encode channelDocument := by
  have hleaveOut : Edit (.one .type) channel.encode
      (.record [("kind", .str "chan"), ("elem", int.encode)]) :=
    @Edit.leaveOut .type ⟨"dir", some (.str "both"), .leaf⟩ _ [("kind", .str "chan")]
      [("elem", int.encode)] (.tail _ (.head _)) rfl
  exact .tail (.single hleaveOut) (.permute .type (.swap ..))

def put : Signature := ⟨[⟨"", int⟩], [], false⟩

def putDocument : Data :=
  .record [("doc", .str "waits"), ("params", .list [.record [("type", int.encode)]]),
    ("results", .list []), ("variadic", .bool false)]

theorem edits_put : Edits (.one .signature) put.encode putDocument := by
  have hparam : Edit (.one .var) (.record [("name", .str ""), ("type", int.encode)])
      (.record [("type", int.encode)]) :=
    @Edit.leaveOut .var ⟨"name", some (.str ""), .leaf⟩ _ [] _ (.head _) rfl
  have hparams : Edit (.one .signature) put.encode
      (.record [("params", .list [.record [("type", int.encode)]]), ("results", .list []),
        ("variadic", .bool false)]) :=
    @Edit.inside .signature ⟨"params", some (.list []), .many .var⟩ _ _ [] _ (.head _)
      (.item [] [] hparam)
  refine .tail (.single hparams) (@Edit.add .signature "doc" _ [] _ ?_)
  simp [Element.rules, signatureRules]

def package : Package := ⟨"lib/queue", "queue", [⟨"Queue", [], channel, [⟨"Put", put⟩]⟩], []⟩

def document : Data :=
  .record [("path", .str "lib/queue"), ("name", .str "queue"),
    ("types", .list [.record [("name", .str "Queue"), ("type_params", .list []),
      ("underlying", channelDocument),
      ("methods", .list [.record [("name", .str "Put"), ("signature", putDocument)]])]])]

theorem edits_package : Edits (.one .package) package.encode document := by
  have hmethod : Edits (.one .method) (Method.mk "Put" put).encode
      (.record [("name", .str "Put"), ("signature", putDocument)]) :=
    Edits.inside ⟨"signature", none, .one .signature⟩ [("name", .str "Put")] []
      (fun _ => .tail _ (.head _)) edits_put
  have hdecl : Edits (.one .typeDecl)
      (.record [("name", .str "Queue"), ("type_params", .list []), ("underlying", channel.encode),
        ("methods", .list [(Method.mk "Put" put).encode])])
      (.record [("name", .str "Queue"), ("type_params", .list []), ("underlying", channelDocument),
        ("methods", .list [.record [("name", .str "Put"), ("signature", putDocument)]])]) :=
    .trans
      (Edits.inside ⟨"underlying", none, .one .type⟩
        [("name", .str "Queue"), ("type_params", .list [])] _ (fun _ => .tail _ (.tail _ (.head _)))
        edits_channel)
      (Edits.inside ⟨"methods", some (.list []), .many .method⟩
        [("name", .str "Queue"), ("type_params", .list []), ("underlying", channelDocument)] []
        (fun _ => .tail _ (.tail _ (.tail _ (.head _)))) (Edits.item [] [] hmethod))
  -- The declaration stands in the list of types, behind the path and the name.
  have htypes := @Edits.inside .package ⟨"types", some (.list []), .many .typeDecl⟩ _ _
    [("path", .str "lib/queue"), ("name", .str "queue")] [("errors", .list [])]
    (fun _ => .tail _ (.tail _ (.head _))) (Edits.item [] [] hdecl)
  exact .tail htypes (@Edit.leaveOut .package ⟨"errors", some (.list []), .leaf⟩ _
    [("path", .str "lib/queue"), ("name", .str "queue"), ("types", _)] []
    (.tail _ (.tail _ (.tail _ (.head _)))) rfl)

end Queue

/-- Each of the documents is read as what was written. -/
theorem Queue.decode_documents :
    (Edits (.one .type) channel.encode channelDocument ∧ channelDocument.readable 2 = true ∧
      GoType.decode false channelDocument = some channel ∧
      GoType.decodeWithin 2 channelDocument = some channel) ∧
    (Edits (.one .signature) put.encode putDocument ∧ putDocument.readable 4 = true ∧
      Signature.read (GoType.decode false) putDocument = some put ∧
      Signature.decodeWithin 4 putDocument = some put) ∧
    (Edits (.one .package) package.encode document ∧ document.readable 9 = true ∧
      Package.decode document = some package ∧
      Package.decodeWithin 9 document = some package) := by
  have hchannel := decode_edits.1 channel channelDocument edits_channel
  have hput := decode_edits.2.1 put putDocument edits_put
  have hpackage := decode_edits.2.2 package document edits_package
  -- None of the documents nests deeper than the limit.
  have hchannelLimit : channelDocument.readable 2 = true := by decide +kernel
  have hputLimit : putDocument.readable 4 = true := by decide +kernel
  have hpackageLimit : document.readable 9 = true := by decide +kernel
  exact ⟨⟨edits_channel, hchannelLimit, hchannel.1, hchannel.2 2 hchannelLimit⟩,
    ⟨edits_put, hputLimit, hput.1, hput.2 4 hputLimit⟩,
    ⟨edits_package, hpackageLimit, hpackage.1, hpackage.2 9 hpackageLimit⟩⟩

end IfaceGen
