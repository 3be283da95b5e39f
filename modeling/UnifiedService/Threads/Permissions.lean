import UnifiedService.Outbound.Vocabulary

/-! Which permission governs which kind of thread. -/

set_option autoImplicit false

namespace UnifiedService.Threads

open UnifiedService.Outbound (ConversationKind)

inductive Permission where
  | conversationsView | conversationsReply | conversationsAssign | conversationsManage
  | commentsView | commentsReply | commentsHide | commentsDelete | commentsAssign | commentsManage
  | mentionsView | mentionsReply | mentionsAssign | mentionsManage
  deriving DecidableEq, Repr

def Permission.code : Permission → String
  | .conversationsView => "conversations.view"
  | .conversationsReply => "conversations.reply"
  | .conversationsAssign => "conversations.assign"
  | .conversationsManage => "conversations.manage"
  | .commentsView => "comments.view"
  | .commentsReply => "comments.reply"
  | .commentsHide => "comments.hide"
  | .commentsDelete => "comments.delete"
  | .commentsAssign => "comments.assign"
  | .commentsManage => "comments.manage"
  | .mentionsView => "mentions.view"
  | .mentionsReply => "mentions.reply"
  | .mentionsAssign => "mentions.assign"
  | .mentionsManage => "mentions.manage"

inductive ConversationAction where
  | view | reply | assign | manage
  deriving DecidableEq, Repr

structure KindPermissions where
  view : Permission
  reply : Permission
  assign : Permission
  manage : Permission

def KindPermissions.of (permissions : KindPermissions) : ConversationAction → Permission
  | .view => permissions.view
  | .reply => permissions.reply
  | .assign => permissions.assign
  | .manage => permissions.manage

def byKind : ConversationKind → KindPermissions
  | .directMessage =>
      ⟨.conversationsView, .conversationsReply, .conversationsAssign, .conversationsManage⟩
  | .commentThread => ⟨.commentsView, .commentsReply, .commentsAssign, .commentsManage⟩
  | .mention => ⟨.mentionsView, .mentionsReply, .mentionsAssign, .mentionsManage⟩
  | .review =>
      ⟨.conversationsView, .conversationsReply, .conversationsAssign, .conversationsManage⟩

/-- The kinds, in the order of `byKind`. -/
def conversationKinds : List ConversationKind := [.directMessage, .commentThread, .mention, .review]

def permissionFor (kind : ConversationKind) (action : ConversationAction) : Permission :=
  (byKind kind).of action

/-- `held.has(permission)`, of the codes an actor holds. -/
def holds (held : List String) (permission : Permission) : Bool := held.contains permission.code

def visibleKinds (held : List String) : List ConversationKind :=
  conversationKinds.filter fun kind => holds held (byKind kind).view

theorem mem_visibleKinds {held : List String} {kind : ConversationKind} :
    kind ∈ visibleKinds held ↔ holds held (permissionFor kind .view) = true := by
  have listed : kind ∈ conversationKinds := by cases kind <;> decide
  simp only [visibleKinds, List.mem_filter, listed, true_and]
  exact Iff.rfl

end UnifiedService.Threads
