import LdapOperator.Api.Strings
import LdapOperator.Api.Types
import LdapOperator.Api.DistinguishedName
import LdapOperator.Api.Walk
import LdapOperator.Api.Chain
import LdapOperator.Controller.Template
import LdapOperator.Controller.Merge
import LdapOperator.Controller.Status
import LdapOperator.Controller.Cluster
import LdapOperator.Controller.Reconcile
import LdapOperator.Controller.Run
import LdapOperator.Controller.Independence
import LdapOperator.Controller.Requeue
import LdapOperator.Controller.Converge
