import FailureReplay.Text.Basic

/-!
# Harness template

The fixed lines of a harness: imports, the node classes and the decoders that
rebuild lists and trees from their literals.
-/

namespace FailureReplay.Harness

def importLines : List Text :=
  ["import java.util.ArrayList;".toList,
   "import java.util.Arrays;".toList,
   "import java.util.List;".toList,
   []]

/-- The test whether the next token stands for a child. -/
def childTest (placeholder : Text) : Text :=
  "            if (index < vals.length && !vals[index].equals(\"".toList ++ placeholder ++
    "\")) \x7b".toList

/-- The tree node class and its decoder, which takes `placeholder` for an absent child. -/
def treeLines (placeholder : Text) : List Text :=
  ["    static class TreeNode \x7b".toList,
   "        int val;".toList,
   "        TreeNode left;".toList,
   "        TreeNode right;".toList,
   "        TreeNode(int x) \x7b val = x; \x7d".toList,
   "    \x7d".toList,
   [],
   "    public static TreeNode deserializeTreeNode(String data) \x7b".toList,
   "        String body = data.trim();".toList,
   "        if (body.length() < 2) return null;".toList,
   "        body = body.substring(1, body.length() - 1).trim();".toList,
   "        if (body.isEmpty()) return null;".toList,
   "        String[] vals = body.split(\"\\\\s+\");".toList,
   "        TreeNode root = new TreeNode(Integer.parseInt(vals[0]));".toList,
   "        List<TreeNode> queue = new ArrayList<>();".toList,
   "        queue.add(root);".toList,
   "        int index = 1;".toList,
   "        for (int i = 0; i < queue.size() && index < vals.length; i++) \x7b".toList,
   "            TreeNode node = queue.get(i);".toList,
   childTest placeholder,
   "                node.left = new TreeNode(Integer.parseInt(vals[index]));".toList,
   "                queue.add(node.left);".toList,
   "            \x7d".toList,
   "            index++;".toList,
   childTest placeholder,
   "                node.right = new TreeNode(Integer.parseInt(vals[index]));".toList,
   "                queue.add(node.right);".toList,
   "            \x7d".toList,
   "            index++;".toList,
   "        \x7d".toList,
   "        return root;".toList,
   "    \x7d".toList,
   []]

/-- The list node class, its decoder and its printer. -/
def listLines : List Text :=
  ["    static class ListNode \x7b".toList,
   "        int val;".toList,
   "        ListNode next;".toList,
   "        ListNode(int x) \x7b val = x; \x7d".toList,
   "    \x7d".toList,
   [],
   "    public static ListNode deserializeListNode(String data) \x7b".toList,
   "        data = data.trim();".toList,
   "        data = data.substring(1, data.length() - 1);".toList,
   "        if (data.trim().isEmpty()) return null;".toList,
   "        String[] values = data.split(\",\");".toList,
   "        ListNode dummy = new ListNode(0);".toList,
   "        ListNode current = dummy;".toList,
   "        for (String val : values) \x7b".toList,
   "            current.next = new ListNode(Integer.parseInt(val.trim()));".toList,
   "            current = current.next;".toList,
   "        \x7d".toList,
   "        return dummy.next;".toList,
   "    \x7d".toList,
   [],
   "    public static String serializeListNode(ListNode node) \x7b".toList,
   "        StringBuilder sb = new StringBuilder();".toList,
   "        sb.append(\"[\");".toList,
   "        while (node != null) \x7b".toList,
   "            sb.append(node.val);".toList,
   "            if (node.next != null) sb.append(\", \");".toList,
   "            node = node.next;".toList,
   "        \x7d".toList,
   "        sb.append(\"]\");".toList,
   "        return sb.toString();".toList,
   "    \x7d".toList,
   []]

end FailureReplay.Harness
